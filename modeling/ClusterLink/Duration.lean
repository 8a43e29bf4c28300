/-!
The text of a span of milliseconds: in whole milliseconds below one second, above in seconds with
no trailing zero.
-/
namespace ClusterLink

structure Milliseconds where
  count : Nat
  deriving DecidableEq, Repr

namespace Milliseconds

/-- The three digits of a fraction of a second, without trailing zeros. -/
def fraction (n : Nat) : String :=
  if n % 100 = 0 then s!"{n / 100}"
  else if n % 10 = 0 then s!"{n / 100}{n / 10 % 10}"
  else s!"{n / 100}{n / 10 % 10}{n % 10}"

def text (span : Milliseconds) : String :=
  let seconds := span.count / 1000
  let rest := span.count % 1000
  if span.count = 0 then "0ns"
  else if seconds = 0 then s!"{rest}ms"
  else if rest = 0 then s!"{seconds}s"
  else s!"{seconds}.{fraction rest}s"

end Milliseconds
end ClusterLink
