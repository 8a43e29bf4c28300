import ClusterLink.Proofs.Cbor.RoundTrip
import ClusterLink.Proofs.Envelope.Fields
/-!
What the entries of a body mean. Each operation has a table of tags, of which only the first value
under each counts. Main statement: `decode_iff_denotes`, a map is read as an envelope exactly if the
values in the table of its operation denote that envelope, and nothing else in the map matters.
-/
namespace ClusterLink

open Cbor (Item)

namespace Cbor.Item

def text? : Item → Option String
  | .text value => some value
  | _ => none

theorem text?_eq_some_iff {item : Item} {text : String} :
    item.text? = some text ↔ item = .text text := by
  cases item <;> simp [text?]

end Cbor.Item

/-! ### Values by tag -/

/-- The values under a text tag, in order. -/
def valuesUnder (entries : List (Item × Item)) (tag : String) : List Item :=
  (entries.filter fun entry => entry.1 = .text tag).map (·.2)

def firstUnder (entries : List (Item × Item)) (tag : String) : Option Item :=
  (valuesUnder entries tag).head?

/-- The first integer under a tag. Values of other kinds before it do not count. -/
def integerUnder (entries : List (Item × Item)) (tag : String) : Option Int :=
  ((valuesUnder entries tag).filterMap Item.int?).head?

/-- The first value under a tag is this number. -/
def NumberUnder (entries : List (Item × Item)) (tag : String) (n : Nat) : Prop :=
  (firstUnder entries tag).bind Item.int? = some (n : Int)

/-- The entries under text tags other than the operation's, in order. -/
def otherTags (entries : List (Item × Item)) : List (String × Item) :=
  (entries.filterMap fun entry => entry.1.text?.map (·, entry.2)).filter (·.1 ≠ "Op")

/-! ### The table -/

namespace Envelope

/-- A map stands for a server. Its information is cut to the stated length. -/
def DenotesServer (item : Item) (server : ServerEntry) : Prop :=
  ∃ entries info length, item = .map entries ∧
    firstUnder entries "Info" = some (.bytes info) ∧
    NumberUnder entries "Length" length ∧ length ≤ info.length ∧
    firstUnder entries "Host" = some (.text server.host) ∧
    NumberUnder entries "Port" server.port.toNat ∧
    server.info = info.take length

/-- A list of servers, empty when it is absent or null. -/
def DenotesServers (value : Option Item) (servers : List ServerEntry) : Prop :=
  match value with
  | none | some .null => servers = []
  | some (.array items) => List.Forall₂ DenotesServer items servers
  | some _ => False

/-- What the tags of each operation have to hold, and the envelope that they then stand for. -/
def Denotes (entries : List (Item × Item)) : Envelope → Prop
  | .info cluster master =>
    DenotesServers (firstUnder entries "Cluster") cluster ∧
      DenotesServers (firstUnder entries "Master") master
  | .serverConnected server internal owned =>
    firstUnder entries "Server" = some (.text server) ∧
      firstUnder entries "Internal" = some (.bool internal) ∧
      firstUnder entries "Owned" = some (.bool owned)
  | .serverDisconnected reason message =>
    NumberUnder entries "Reason" reason.toNat ∧
      message = (firstUnder entries "Message").bind Item.text?
  | .serverResponse id payload success =>
    NumberUnder entries "Id" id.toNat ∧ id.toNat < commandIdSpace ∧
      firstUnder entries "Response" = some (.text payload) ∧
      firstUnder entries "Success" = some (.bool success)
  | .connect target => firstUnder entries "Target" = some (.text target)
  | .disconnect => True
  | .command text id =>
    NumberUnder entries "Id" id.toNat ∧ id.toNat < commandIdSpace ∧
      firstUnder entries "Command" = some (.text text)
  | .packet channel data length =>
    firstUnder entries "Data" = some (.bytes data) ∧
      NumberUnder entries "Length" length.toNat ∧ length.toNat ≤ data.length ∧
      NumberUnder entries "Channel" channel.toNat
  | .auth _ fields => fields = otherTags entries
  | .chat message => firstUnder entries "Message" = some (.text message)

/-- Two values that do not differ as a server. -/
def SameServer : Item → Item → Prop
  | .map entries, .map entries' =>
    ∀ tag ∈ ["Info", "Length", "Host", "Port"], firstUnder entries tag = firstUnder entries' tag
  | item, item' => item = item'

/-- Two values that do not differ as a list of servers. -/
def SameServers : Option Item → Option Item → Prop
  | some (.array items), some (.array items') => List.Forall₂ SameServer items items'
  | value, value' => value = value'

/-- Two maps that do not differ in the table of an operation. -/
def SameTags (entries entries' : List (Item × Item)) : Operation → Prop
  | .info => ∀ tag ∈ ["Cluster", "Master"],
    SameServers (firstUnder entries tag) (firstUnder entries' tag)
  | .serverConnected => ∀ tag ∈ ["Server", "Internal", "Owned"],
    firstUnder entries tag = firstUnder entries' tag
  | .serverDisconnected => ∀ tag ∈ ["Reason", "Message"],
    firstUnder entries tag = firstUnder entries' tag
  | .serverResponse => ∀ tag ∈ ["Id", "Response", "Success"],
    firstUnder entries tag = firstUnder entries' tag
  | .connect => firstUnder entries "Target" = firstUnder entries' "Target"
  | .disconnect => True
  | .command => ∀ tag ∈ ["Id", "Command"], firstUnder entries tag = firstUnder entries' tag
  | .packet => ∀ tag ∈ ["Data", "Length", "Channel"],
    firstUnder entries tag = firstUnder entries' tag
  | .auth _ => otherTags entries = otherTags entries'
  | .chat => firstUnder entries "Message" = firstUnder entries' "Message"

end Envelope

/-! ### Looking up -/

section

variable {entries entries' : List (Item × Item)} {operation : Operation} {tag : String}

theorem valuesUnder_cons (key value : Item) (rest : List (Item × Item)) (tag : String) :
    valuesUnder ((key, value) :: rest) tag =
      if key = .text tag then value :: valuesUnder rest tag else valuesUnder rest tag := by
  by_cases h : key = .text tag <;> simp [valuesUnder, h]

theorem get?_eq_firstUnder (operation : Operation) (entries : List (Item × Item)) (tag : String) :
    Fields.get? ⟨operation, entries⟩ tag = firstUnder entries tag := by
  induction entries with
  | nil => rfl
  | cons entry rest ih =>
    obtain ⟨key, value⟩ := entry
    rw [Fields.get?] at ih ⊢
    rw [firstUnder, valuesUnder_cons, List.findSome?_cons, ih]
    by_cases h : key = .text tag <;> simp [h, firstUnder]

theorem operationCode?_eq_integerUnder (entries : List (Item × Item)) :
    Envelope.operationCode? entries = integerUnder entries "Op" := by
  induction entries with
  | nil => rfl
  | cons entry rest ih =>
    obtain ⟨key, value⟩ := entry
    rw [Envelope.operationCode?] at ih ⊢
    rw [integerUnder, valuesUnder_cons, List.findSome?_cons, ih]
    by_cases h : key = .text "Op"
    · cases hint : value.int? <;> simp [h, hint, integerUnder]
    · simp [h, integerUnder]

theorem rest_eq_otherTags (operation : Operation) (entries : List (Item × Item)) :
    Fields.rest ⟨operation, entries⟩ = otherTags entries := by
  induction entries with
  | nil => rfl
  | cons entry rest ih =>
    obtain ⟨key, value⟩ := entry
    rw [Fields.rest] at ih ⊢
    rw [otherTags] at ih ⊢
    rw [List.filterMap_cons, List.filterMap_cons, ih]
    cases key with
    | text tag => by_cases h : tag = "Op" <;> simp [h, Item.text?]
    | _ => simp [Item.text?]

/-- A number is written without a sign. -/
theorem numberUnder_iff {n : Nat} : NumberUnder entries tag n ↔
    ∃ value, firstUnder entries tag = some (.unsigned value) ∧ value.toNat = n := by
  rw [NumberUnder, Option.bind_eq_some_iff]
  constructor
  · rintro ⟨item, hitem, hint⟩
    cases item with
    | unsigned value => exact ⟨value, hitem, Int.ofNat.inj (Option.some.inj hint)⟩
    | negative value =>
      have hsign := Option.some.inj hint
      omega
    | _ => cases hint
  · rintro ⟨value, hitem, rfl⟩
    exact ⟨_, hitem, rfl⟩

end

/-! ### Reading the table -/

theorem bind_eq_ok_iff {ε α β : Type} {x : Except ε α} {f : α → Except ε β} {b : β} :
    x >>= f = .ok b ↔ ∃ a, x = .ok a ∧ f a = .ok b := by
  cases x with
  | error e => simp [bind, Except.bind]
  | ok a => simp [bind, Except.bind]

theorem mapM_eq_ok_iff {ε α β : Type} {f : α → Except ε β} {items : List α} {results : List β} :
    items.mapM f = .ok results ↔
      List.Forall₂ (fun item result => f item = .ok result) items results := by
  induction items generalizing results with
  | nil => simp [pure, Except.pure, eq_comm]
  | cons item items ih =>
    rw [List.mapM_cons, bind_eq_ok_iff]
    cases results with
    | nil => simp [bind_eq_ok_iff, pure, Except.pure]
    | cons result results => simp [bind_eq_ok_iff, pure, Except.pure, ih]

namespace Fields

variable {entries : List (Item × Item)} {operation : Operation} {tag : String}

theorem text_iff {text : String} : Fields.text ⟨operation, entries⟩ tag = .ok text ↔
    firstUnder entries tag = some (.text text) := by
  rw [text_eq_ok_iff, get?_eq_firstUnder]

theorem bool_iff {flag : Bool} : Fields.bool ⟨operation, entries⟩ tag = .ok flag ↔
    firstUnder entries tag = some (.bool flag) := by
  rw [bool_eq_ok_iff, get?_eq_firstUnder]

theorem bytes_iff {octets : Octets} : Fields.bytes ⟨operation, entries⟩ tag = .ok octets ↔
    firstUnder entries tag = some (.bytes octets) := by
  rw [bytes_eq_ok_iff, get?_eq_firstUnder]

theorem number_iff {bound n : Nat} : Fields.number ⟨operation, entries⟩ tag bound = .ok n ↔
    NumberUnder entries tag n ∧ n < bound := by
  rw [number_eq_ok_iff, get?_eq_firstUnder, numberUnder_iff]
  simp only [← and_assoc, exists_and_right]

theorem word_iff {word : UInt16} : Fields.word ⟨operation, entries⟩ tag = .ok word ↔
    NumberUnder entries tag word.toNat := by
  rw [word_eq_ok_iff, get?_eq_firstUnder, numberUnder_iff]

theorem commandId_iff {id : UInt16} : Fields.commandId ⟨operation, entries⟩ = .ok id ↔
    NumberUnder entries "Id" id.toNat ∧ id.toNat < commandIdSpace := by
  rw [commandId_eq_ok_iff, get?_eq_firstUnder, numberUnder_iff, and_comm]

theorem server_iff {item : Item} {server : ServerEntry} :
    Fields.server ⟨operation, entries⟩ tag item = .ok server ↔
      Envelope.DenotesServer item server := by
  cases item with
  | map inner =>
    simp only [Fields.server, bind_eq_ok_iff, bytes_iff, number_iff]
    constructor
    · rintro ⟨info, hinfo, length, ⟨hlength, -⟩, hrest⟩
      split at hrest
      · cases hrest
      · next hle =>
        simp only [bind_eq_ok_iff, text_iff, word_iff] at hrest
        obtain ⟨host, hhost, port, hport, hserver⟩ := hrest
        cases hserver
        exact ⟨inner, info, length, rfl, hinfo, hlength, Nat.not_lt.1 hle, hhost, hport, rfl⟩
    · rintro ⟨inner, info, length, ⟨⟩, hinfo, hlength, hle, hhost, hport, hcut⟩
      obtain ⟨value, -, hvalue⟩ := numberUnder_iff.1 hlength
      refine ⟨info, hinfo, length, ⟨hlength, hvalue ▸ value.toNat_lt⟩, ?_⟩
      rw [if_neg (Nat.not_lt.2 hle)]
      simp only [bind_eq_ok_iff, text_iff, word_iff]
      exact ⟨_, hhost, _, hport, by rw [← hcut]⟩
  | _ => simp [Fields.server, wrong, Envelope.DenotesServer]

theorem servers_iff {servers : List ServerEntry} :
    Fields.servers ⟨operation, entries⟩ tag = .ok servers ↔
      Envelope.DenotesServers (firstUnder entries tag) servers := by
  rw [Fields.servers, get?_eq_firstUnder]
  generalize firstUnder entries tag = value
  unfold Envelope.DenotesServers
  split
  · simp [eq_comm]
  · simp [eq_comm]
  · simp only [mapM_eq_ok_iff, server_iff]
  · simp [wrong]

/-- What is read for an operation is denoted by its table. -/
theorem denotes_of_envelope {envelope : Envelope}
    (h : Fields.envelope ⟨operation, entries⟩ = .ok envelope) :
    envelope.operation = operation ∧ envelope.Denotes entries := by
  cases operation with
  | info =>
    simp only [Fields.envelope, bind_eq_ok_iff, servers_iff] at h
    obtain ⟨cluster, hcluster, master, hmaster, ⟨⟩⟩ := h
    exact ⟨rfl, hcluster, hmaster⟩
  | serverConnected =>
    simp only [Fields.envelope, bind_eq_ok_iff, text_iff, bool_iff] at h
    obtain ⟨server, hserver, internal, hinternal, owned, howned, ⟨⟩⟩ := h
    exact ⟨rfl, hserver, hinternal, howned⟩
  | serverDisconnected =>
    simp only [Fields.envelope, bind_eq_ok_iff, word_iff, get?_eq_firstUnder] at h
    obtain ⟨reason, hreason, ⟨⟩⟩ := h
    refine ⟨rfl, hreason, ?_⟩
    cases firstUnder entries "Message" with
    | none => rfl
    | some item => cases item <;> rfl
  | serverResponse =>
    simp only [Fields.envelope, bind_eq_ok_iff, commandId_iff, text_iff, bool_iff] at h
    obtain ⟨id, ⟨hid, hspace⟩, payload, hpayload, success, hsuccess, ⟨⟩⟩ := h
    exact ⟨rfl, hid, hspace, hpayload, hsuccess⟩
  | connect =>
    simp only [Fields.envelope, bind_eq_ok_iff, text_iff] at h
    obtain ⟨target, htarget, ⟨⟩⟩ := h
    exact ⟨rfl, htarget⟩
  | disconnect =>
    cases h
    exact ⟨rfl, trivial⟩
  | command =>
    simp only [Fields.envelope, bind_eq_ok_iff, commandId_iff, text_iff] at h
    obtain ⟨id, ⟨hid, hspace⟩, text, htext, ⟨⟩⟩ := h
    exact ⟨rfl, hid, hspace, htext⟩
  | packet =>
    simp only [Fields.envelope, bind_eq_ok_iff, bytes_iff, number_iff] at h
    obtain ⟨data, hdata, length, ⟨hlength, hbound⟩, h⟩ := h
    split at h
    · cases h
    · next hle =>
      simp only [bind_eq_ok_iff, word_iff] at h
      obtain ⟨channel, hchannel, ⟨⟩⟩ := h
      have hnat : (UInt32.ofNat length).toNat = length := UInt32.toNat_ofNat_of_lt' hbound
      refine ⟨rfl, hdata, ?_, ?_, hchannel⟩
      · rwa [hnat]
      · rw [hnat]
        exact Nat.not_lt.1 hle
  | auth kind =>
    simp only [Fields.envelope, rest_eq_otherTags] at h
    cases h
    exact ⟨rfl, rfl⟩
  | chat =>
    simp only [Fields.envelope, bind_eq_ok_iff, text_iff] at h
    obtain ⟨message, hmessage, ⟨⟩⟩ := h
    exact ⟨rfl, hmessage⟩

/-- What the table of an operation denotes is read for it. -/
theorem envelope_of_denotes {envelope : Envelope} (h : envelope.Denotes entries) :
    Fields.envelope ⟨envelope.operation, entries⟩ = .ok envelope := by
  cases envelope with
  | info cluster master =>
    simp only [Envelope.operation, Fields.envelope, bind_eq_ok_iff, servers_iff]
    exact ⟨cluster, h.1, master, h.2, rfl⟩
  | serverConnected server internal owned =>
    simp only [Envelope.operation, Fields.envelope, bind_eq_ok_iff, text_iff, bool_iff]
    exact ⟨server, h.1, internal, h.2.1, owned, h.2.2, rfl⟩
  | serverDisconnected reason message =>
    simp only [Envelope.operation, Fields.envelope, bind_eq_ok_iff, word_iff,
      get?_eq_firstUnder]
    refine ⟨reason, h.1, ?_⟩
    rw [h.2]
    cases firstUnder entries "Message" with
    | none => rfl
    | some item => cases item <;> rfl
  | serverResponse id payload success =>
    simp only [Envelope.operation, Fields.envelope, bind_eq_ok_iff, commandId_iff, text_iff,
      bool_iff]
    exact ⟨id, ⟨h.1, h.2.1⟩, payload, h.2.2.1, success, h.2.2.2, rfl⟩
  | connect target =>
    simp only [Envelope.operation, Fields.envelope, bind_eq_ok_iff, text_iff]
    exact ⟨target, h, rfl⟩
  | disconnect => rfl
  | command text id =>
    simp only [Envelope.operation, Fields.envelope, bind_eq_ok_iff, commandId_iff, text_iff]
    exact ⟨id, ⟨h.1, h.2.1⟩, text, h.2.2, rfl⟩
  | packet channel data length =>
    obtain ⟨hdata, hlength, hle, hchannel⟩ := h
    simp only [Envelope.operation, Fields.envelope, bind_eq_ok_iff, bytes_iff, number_iff]
    refine ⟨data, hdata, length.toNat, ⟨hlength, length.toNat_lt⟩, ?_⟩
    rw [if_neg (Nat.not_lt.2 hle)]
    simp only [bind_eq_ok_iff, word_iff]
    exact ⟨channel, hchannel, by rw [UInt32.ofNat_toNat]⟩
  | auth kind fields =>
    cases h
    simp only [Envelope.operation, Fields.envelope, rest_eq_otherTags]
  | chat message =>
    simp only [Envelope.operation, Fields.envelope, bind_eq_ok_iff, text_iff]
    exact ⟨message, h, rfl⟩

/-! ### Reading nothing else -/

theorem mapM_congr {ε α β γ : Type} {f : α → Except ε γ} {g : β → Except ε γ} {items : List α}
    {items' : List β} (h : List.Forall₂ (fun item item' => f item = g item') items items') :
    items.mapM f = items'.mapM g := by
  induction h with
  | nil => rfl
  | cons hitem _ ih => rw [List.mapM_cons, List.mapM_cons, hitem, ih]

section

variable {entries' : List (Item × Item)}

theorem get_congr (h : firstUnder entries tag = firstUnder entries' tag) :
    Fields.get ⟨operation, entries⟩ tag = Fields.get ⟨operation, entries'⟩ tag := by
  simp only [Fields.get, get?_eq_firstUnder, h]

theorem server_congr {item item' : Item} (h : Envelope.SameServer item item') :
    Fields.server ⟨operation, entries⟩ tag item =
      Fields.server ⟨operation, entries'⟩ tag item' := by
  unfold Envelope.SameServer at h
  split at h
  · next inner inner' =>
    have hinfo := h "Info" (by simp)
    have hlength := h "Length" (by simp)
    have hhost := h "Host" (by simp)
    have hport := h "Port" (by simp)
    simp only [Fields.server, Fields.bytes, Fields.number, Fields.text, Fields.word, wrong,
      get_congr hinfo, get_congr hlength, get_congr hhost, get_congr hport]
  · subst h
    cases item <;> rfl

theorem servers_congr
    (h : Envelope.SameServers (firstUnder entries tag) (firstUnder entries' tag)) :
    Fields.servers ⟨operation, entries⟩ tag = Fields.servers ⟨operation, entries'⟩ tag := by
  simp only [Fields.servers, get?_eq_firstUnder]
  generalize firstUnder entries tag = value at h
  generalize firstUnder entries' tag = value' at h
  unfold Envelope.SameServers at h
  split at h
  · exact mapM_congr (h.imp fun _ _ hsame => server_congr hsame)
  · subst h
    rfl

/-- Maps that do not differ in the table of an operation are read alike for it. -/
theorem envelope_congr (h : Envelope.SameTags entries entries' operation) :
    Fields.envelope ⟨operation, entries⟩ = Fields.envelope ⟨operation, entries'⟩ := by
  cases operation with
  | info =>
    have hcluster := h "Cluster" (by simp)
    have hmaster := h "Master" (by simp)
    simp only [Fields.envelope, servers_congr hcluster, servers_congr hmaster]
  | serverConnected =>
    have hserver := h "Server" (by simp)
    have hinternal := h "Internal" (by simp)
    have howned := h "Owned" (by simp)
    simp only [Fields.envelope, Fields.text, Fields.bool, wrong, get_congr hserver,
      get_congr hinternal, get_congr howned]
  | serverDisconnected =>
    have hreason := h "Reason" (by simp)
    have hmessage := h "Message" (by simp)
    simp only [Fields.envelope, Fields.word, Fields.number, wrong, get_congr hreason,
      get?_eq_firstUnder, hmessage]
  | serverResponse =>
    have hid := h "Id" (by simp)
    have hresponse := h "Response" (by simp)
    have hsuccess := h "Success" (by simp)
    simp only [Fields.envelope, Fields.commandId, Fields.word, Fields.number, Fields.text,
      Fields.bool, wrong, get_congr hid, get_congr hresponse, get_congr hsuccess]
  | connect => simp only [Fields.envelope, Fields.text, wrong, get_congr h]
  | disconnect => rfl
  | command =>
    have hid := h "Id" (by simp)
    have htext := h "Command" (by simp)
    simp only [Fields.envelope, Fields.commandId, Fields.word, Fields.number, Fields.text, wrong,
      get_congr hid, get_congr htext]
  | packet =>
    have hdata := h "Data" (by simp)
    have hlength := h "Length" (by simp)
    have hchannel := h "Channel" (by simp)
    simp only [Fields.envelope, Fields.bytes, Fields.number, Fields.word, wrong, get_congr hdata,
      get_congr hlength, get_congr hchannel]
  | auth kind =>
    have hothers : otherTags entries = otherTags entries' := h
    simp only [Fields.envelope, rest_eq_otherTags, hothers]
  | chat => simp only [Fields.envelope, Fields.text, wrong, get_congr h]

end

end Fields

theorem Operation.ofCode?_eq_some_iff {code : Int} {operation : Operation} :
    Operation.ofCode? code = some operation ↔ code = operation.code := by
  constructor
  · intro h
    unfold ofCode? at h
    split at h <;> cases h <;> rfl
  · rintro rfl
    exact ofCode?_code operation

namespace Envelope

variable {entries entries' : List (Item × Item)} {body body' rest rest' : Octets}

theorem ofItem_map_eq_ok_iff {envelope : Envelope} :
    ofItem (.map entries) = .ok envelope ↔
      integerUnder entries "Op" = some (envelope.operation.code : Int) ∧
        envelope.Denotes entries := by
  simp only [ofItem, operationCode?_eq_integerUnder]
  constructor
  · intro h
    split at h
    · cases h
    · next code hcode =>
      split at h
      · cases h
      · next operation hoperation =>
        obtain ⟨rfl, hdenotes⟩ := Fields.denotes_of_envelope h
        exact ⟨by rw [hcode, Operation.ofCode?_eq_some_iff.1 hoperation], hdenotes⟩
  · rintro ⟨hcode, hdenotes⟩
    simp only [hcode, Operation.ofCode?_code]
    exact Fields.envelope_of_denotes hdenotes

theorem ofItem_map_congr
    (hcode : integerUnder entries "Op" = integerUnder entries' "Op")
    (hsame : ∀ operation : Operation, integerUnder entries "Op" = some (operation.code : Int) →
      SameTags entries entries' operation) :
    ofItem (.map entries) = ofItem (.map entries') := by
  simp only [ofItem, operationCode?_eq_integerUnder, ← hcode]
  cases hint : integerUnder entries "Op" with
  | none => rfl
  | some code =>
    cases hoperation : Operation.ofCode? code with
    | none => simp only [hoperation]
    | some operation =>
      simp only [hoperation]
      apply Fields.envelope_congr
      exact hsame operation (by rw [hint, Operation.ofCode?_eq_some_iff.1 hoperation])

theorem decode_of_read {item : Item} (h : Item.read? body = some (item, rest)) :
    decode body = (ofItem item).mapError .malformed := by
  simp only [decode, h]

/-- A body that begins with a map is read as an envelope exactly if the first integer under `Op` is
the code of the envelope's operation, from 0 to 11, and the first values under the tags of that
operation denote the envelope. Any other is refused as malformed. Nothing else matters: two such
bodies with the same operation that do not differ in its table are read alike. -/
theorem decode_iff_denotes (h : Item.read? body = some (.map entries, rest)) :
    (∀ envelope, decode body = .ok envelope ↔
      integerUnder entries "Op" = some (envelope.operation.code : Int) ∧
        envelope.Denotes entries) ∧
    (∀ error, decode body = .error error → ∃ cause, error = .malformed cause) ∧
    ∀ body' rest' entries', Item.read? body' = some (.map entries', rest') →
      integerUnder entries "Op" = integerUnder entries' "Op" →
      (∀ operation : Operation, integerUnder entries "Op" = some (operation.code : Int) →
        SameTags entries entries' operation) →
      decode body = decode body' := by
  refine ⟨fun envelope => ?_, fun error herror => ?_, fun body' rest' entries' h' hcode hsame => ?_⟩
  · rw [decode_of_read h, ← ofItem_map_eq_ok_iff]
    cases ofItem (.map entries) <;> simp [Except.mapError]
  · rw [decode_of_read h] at herror
    cases hitem : ofItem (.map entries) with
    | error cause =>
      rw [hitem] at herror
      exact ⟨cause, (Except.error.inj herror).symm⟩
    | ok envelope =>
      rw [hitem] at herror
      cases herror
  · rw [decode_of_read h, decode_of_read h', ofItem_map_congr hcode hsame]

/-- A list of servers among entries that do not count: other keys, repeats, and values of `Op` that
are no integers. -/
def noisyServers : List (Item × Item) :=
  [(.unsigned 7, .text "Op"), (.text "Op", .text "Info"),
    (.text "Cluster", .array [.map [(.text "Port", .unsigned 28785), (.null, .null),
      (.text "Info", .bytes [1, 2, 3]), (.text "Length", .unsigned 2), (.text "Host", .text "a"),
      (.text "Host", .bool true)]]),
    (.text "Op", .unsigned 0), (.text "Op", .unsigned 11), (.text "Cluster", .null)]

theorem decode_iff_denotes_noisyServers :
    Item.read? ((Item.map noisyServers).write ++ [255]) = some (.map noisyServers, [255]) ∧
      decode ((Item.map noisyServers).write ++ [255]) = .ok (.info [⟨"a", 28785, [1, 2]⟩] []) := by
  have hread : Item.read? ((Item.map noisyServers).write ++ [255]) =
      some (.map noisyServers, [255]) :=
    Item.readNested_write _ _ _ (by decide) (by decide) (by decide)
  have hserver : DenotesServers (firstUnder noisyServers "Cluster") [⟨"a", 28785, [1, 2]⟩] :=
    .cons ⟨_, [1, 2, 3], 2, rfl, rfl, rfl, by decide, rfl, rfl, rfl⟩ .nil
  exact ⟨hread, ((decode_iff_denotes hread).1 _).2 ⟨rfl, hserver, rfl⟩⟩

end Envelope
end ClusterLink
