namespace Handover

inductive Signal where
  | restart
  | interrupt
  | terminate
deriving DecidableEq, Repr

namespace Signal

def all : List Signal := [restart, interrupt, terminate]

def number : Signal → Int
  | restart => 1
  | interrupt => 2
  | terminate => 15

/-- The signal of that number, if it is handled. -/
def ofNumber? (n : Int) : Option Signal := all.find? fun s => s.number == n

def name : Signal → String
  | restart => "SIGHUP"
  | interrupt => "SIGINT"
  | terminate => "SIGTERM"

def purpose : Signal → String
  | restart => "Restart"
  | interrupt => "Interrupt"
  | terminate => "Terminate"

/-- The signal ends the process, rather than replacing it. -/
def isStop : Signal → Bool
  | restart => false
  | interrupt => true
  | terminate => true

@[simp] theorem ofNumber?_number (s : Signal) : ofNumber? s.number = some s := by
  cases s <;> decide

theorem number_of_ofNumber? {n : Int} {s : Signal} (h : ofNumber? n = some s) : s.number = n := by
  simpa using List.find?_some h

end Signal

end Handover
