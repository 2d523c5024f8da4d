/-!
Periodic timers. A tick that is taken in time moves the next one by a period from when it was
due; one that is taken late moves it to a period from now.
-/

namespace Harvest

/-- Lateness up to this many milliseconds is none. -/
def graceTime : Nat := 5

structure Ticker where
  period : Nat
  due : Nat
  deriving DecidableEq, Repr

def Ticker.next (t : Ticker) (now : Nat) : Ticker :=
  { t with due := if t.due + graceTime < now then now + t.period else t.due + t.period }

end Harvest
