import Handover.Text.Os

namespace Handover.Restart

def flag : String := "--graceful"

/-- Introduces the order of the addresses handed over. -/
def orderFlag : String := "--socket-order"

/-- The order flag up to its attached value. -/
def attachedOrder : String := orderFlag ++ "="

/-- The argument is an order flag with its value attached. -/
def isAttachedOrder (a : OsText) : Bool := a.text?.isSome && a.startsWith attachedOrder

/-- The arguments without restart markers; an order flag goes with the argument behind it. -/
def withoutMarkers : List OsText → List OsText
  | [] => []
  | a :: rest =>
    if a = .ofString flag then withoutMarkers rest
    else if a = .ofString orderFlag then
      match rest with
      | [] => []
      | _ :: rest => withoutMarkers rest
    else if isAttachedOrder a then withoutMarkers rest
    else a :: withoutMarkers rest

/-- The markers for an order of addresses: the order itself is left out unless there are several. -/
def markers (order : List String) : List OsText :=
  .ofString flag :: if 1 < order.length then [.ofString (attachedOrder ++ ",".intercalate order)] else []

/-- The arguments of a replacement for a process with arguments `base` that hands over `order`. -/
def arguments (base : List OsText) (order : List String) : List OsText := withoutMarkers base ++ markers order

end Handover.Restart
