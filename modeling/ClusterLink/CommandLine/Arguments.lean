import ClusterLink.Settings.Basic
/-!
The arguments of the command line. Options stand before the command, where they hold for every
command, or behind it. Each may be given once in either place, and a value given behind the command
goes before one given in front of it.
-/
namespace ClusterLink.CommandLine

inductive Verb where
  | run
  | command
  | config
  | info
  deriving DecidableEq, Repr

inductive OptionName where
  | config
  | verbose
  | host
  | port
  | join
  | generate
  | output
  | help
  | version
  deriving DecidableEq, Repr

/-- Why arguments ask for nothing to be done. -/
inductive Stop where
  /-- They are not understood. -/
  | usage
  | help
  | version
  deriving DecidableEq, Repr

namespace Verb

def name : Verb → String
  | .run => "run"
  | .command => "command"
  | .config => "config"
  | .info => "info"

def ofName? (text : String) : Option Verb :=
  [run, command, config, info].find? (·.name = text)

/-- The options that a command takes beside those for every command. -/
def options : Verb → List OptionName
  | .run => [.host, .port, .join]
  | .command => [.host, .port]
  | .config => [.generate, .output]
  | .info => []

end Verb

namespace OptionName

def takesValue : OptionName → Bool
  | .config | .host | .port | .join | .output => true
  | .verbose | .generate | .help | .version => false

def long : OptionName → String
  | .config => "config"
  | .verbose => "verbose"
  | .host => "host"
  | .port => "port"
  | .join => "join"
  | .generate => "generate"
  | .output => "output"
  | .help => "help"
  | .version => "version"

def short? : OptionName → Option Char
  | .config => some 'c'
  | .verbose => some 'v'
  | .port => some 'p'
  | .join => some 'j'
  | .output => some 'o'
  | .help => some 'h'
  | .version => some 'V'
  | .host | .generate => none

/-- The options known before a command and behind it. -/
def known : Option Verb → List OptionName
  | none => [.config, .verbose, .help, .version]
  | some verb => [.config, .verbose, .help] ++ verb.options

end OptionName

/-- A number that a network port can have, with or without a sign. -/
def port? (text : String) : Option UInt16 :=
  let (negative, digits) := match text.toList with
    | '-' :: rest => (true, rest)
    | '+' :: rest => (false, rest)
    | rest => (false, rest)
  let n := digits.foldl (fun n c => n * 10 + (c.toNat - 48)) 0
  if digits.isEmpty || !digits.all Char.isDigit || 65535 < n || (negative && n ≠ 0) then none
  else some (UInt16.ofNat n)

/-- The options given in one place, those without a value under the empty text. -/
abbrev Given := List (OptionName × String)

/-- The arguments up to some point. -/
structure Progress where
  verb : Option Verb
  /-- The options before the command. -/
  outer : Given
  /-- The options behind the command. -/
  inner : Given
  text : Option String
  /-- An option whose value comes next. -/
  pending : Option OptionName
  /-- Whether no further options are looked for. -/
  plain : Bool
  /-- Whether the arguments ask for help on what follows. -/
  helping : Bool

namespace Progress

def new : Progress := ⟨none, [], [], none, none, false, false⟩

/-- The options given where the next one stands. -/
def here (p : Progress) : Given := if p.verb.isSome then p.inner else p.outer

def acceptable (option : OptionName) (value : String) : Bool :=
  match option with
  | .port => (port? value).isSome
  | .config | .output => !value.isEmpty
  | _ => true

def give (p : Progress) (option : OptionName) (value : String) : Except Stop Progress :=
  if option = .help then .error .help
  else if option = .version then .error .version
  else if (p.here.lookup option).isSome || !acceptable option value then .error .usage
  else if p.verb.isSome then
    .ok { p with inner := (option, value) :: p.inner, pending := none }
  else .ok { p with outer := (option, value) :: p.outer, pending := none }

/-- An option in full, with its value behind an equals sign or still to come. -/
def takeLong (p : Progress) (body : List Char) : Except Stop Progress :=
  let name := String.ofList (body.takeWhile (· ≠ '='))
  match (OptionName.known p.verb).find? (·.long = name), body.dropWhile (· ≠ '=') with
  | none, _ => .error .usage
  | some option, [] =>
    if option.takesValue then .ok { p with pending := some option } else p.give option ""
  | some option, _ :: value =>
    if option.takesValue then p.give option (String.ofList value) else .error .usage

/-- Options by their letters. The first one that takes a value takes what is left, behind an equals
sign if there is one, or the next argument. -/
def takeShort (p : Progress) : List Char → Except Stop Progress
  | [] => .ok p
  | c :: rest =>
    match (OptionName.known p.verb).find? (·.short? = some c) with
    | none => .error .usage
    | some option =>
      if option.takesValue then
        match rest with
        | [] => .ok { p with pending := some option }
        | '=' :: value => p.give option (String.ofList value)
        | value => p.give option (String.ofList value)
      else do
        let p ← p.give option ""
        p.takeShort rest

/-- A word that is no option: the command or its text. -/
def takeWord (p : Progress) (word : String) : Except Stop Progress :=
  match p.verb with
  | none =>
    if p.plain then .error .usage
    else if word = "help" then .ok { p with helping := true }
    else
      match Verb.ofName? word with
      | some verb => .ok { p with verb := some verb }
      | none => .error .usage
  | some .command =>
    if p.text.isSome then .error .usage else .ok { p with text := some word }
  | some _ => .error .usage

/-- The command that help is asked for. -/
def takeTopic (p : Progress) (word : String) : Except Stop Progress :=
  if p.text.isSome || ((Verb.ofName? word).isNone && word ≠ "help") then .error .usage
  else .ok { p with text := some word }

def take (p : Progress) (argument : String) : Except Stop Progress :=
  if p.helping then p.takeTopic argument
  else if p.plain then p.takeWord argument
  else
    match argument.toList, p.pending with
    | ['-'], some option => p.give option argument
    | ['-'], none => p.takeWord argument
    | '-' :: _, some _ => .error .usage
    | ['-', '-'], none => .ok { p with plain := true }
    | '-' :: '-' :: body, none => p.takeLong body
    | '-' :: letters, none => p.takeShort letters
    | _, some option => p.give option argument
    | _, none => p.takeWord argument

end Progress

/-- What to do, with the options that the command was given. -/
inductive Action where
  | run (host : Option String) (port : Option UInt16) (join : Option String)
  | command (text : String) (host : Option String) (port : Option UInt16)
  | config (generate : Bool) (output : Option String)
  | info
  deriving DecidableEq, Repr

structure Invocation where
  /-- The settings file, if one is named. -/
  config : Option String
  verbose : Bool
  action : Action
  deriving DecidableEq, Repr

namespace Progress

def action? (p : Progress) : Option Action :=
  let host := p.inner.lookup .host
  let port := (p.inner.lookup .port).bind port?
  match p.verb with
  | some .run => some (.run host port (p.inner.lookup .join))
  | some .command => p.text.map fun text => .command text host port
  | some .config => some (.config (p.inner.lookup .generate).isSome (p.inner.lookup .output))
  | some .info => some .info
  | none => none

/-- Everything has been taken. -/
def finish (p : Progress) : Except Stop Invocation :=
  if p.helping then .error .help
  else
    match p.pending, p.action? with
    | none, some action =>
      let given (option : OptionName) : Option String :=
        (p.inner.lookup option).or (p.outer.lookup option)
      .ok ⟨given .config, (given .verbose).isSome, action⟩
    | _, _ => .error .usage

end Progress

def Invocation.parse (arguments : List String) : Except Stop Invocation := do
  let p ← arguments.foldlM Progress.take .new
  p.finish

end ClusterLink.CommandLine
