namespace Handover.Scenario

def sorted (texts : List String) : List String := texts.mergeSort fun a b => !(b < a)

/-- The entry of a name in a list of pairs. -/
def named? {α : Type} (entries : List (String × α)) (name : String) : Option α := entries.lookup name

/-- The entries without those of a name. -/
def without {α : Type} (entries : List (String × α)) (name : String) : List (String × α) :=
  entries.filter fun e => e.1 != name

/-- The entries with one more, in place of any of that name. -/
def replacing {α : Type} (entries : List (String × α)) (name : String) (a : α) : List (String × α) :=
  without entries name ++ [(name, a)]

end Handover.Scenario
