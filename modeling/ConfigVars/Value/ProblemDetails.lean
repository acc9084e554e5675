import ConfigVars.Failure
import ConfigVars.Table

/-!
# Problems from their details

A problem of a kind is made from details, some in order and some by name (`Problem.ofDetails`).
Each kind says which details it takes (`ProblemKind.parameters`); a detail that is missing, given
twice or unknown is a failure.
-/

namespace ConfigVars

/-- The details that a kind of problem takes. -/
structure Parameters where
  /-- Those that may be given in order. -/
  ordered : List String
  /-- Those of them that may be missing. -/
  missable : List String := []
  /-- Those that are given by name only, and may be missing. -/
  named : List String := []

/-- The details that a kind of problem takes; the general kind takes any, but in order only. -/
def ProblemKind.parameters : ProblemKind → Parameters
  | .general => { ordered := [] }
  | .unknownVariable => { ordered := ["name"] }
  | .badOption => { ordered := ["option", "reason"], missable := ["reason"] }
  | .notCallable => { ordered := ["option"] }
  | .reading | .unreadable | .unsplit =>
    { ordered := ["message"], named := ["source", "line", "token"] }
  | .undefinedVariable => { ordered := ["name"], named := ["source", "line", "token"] }
  | .rejected => { ordered := ["name", "value"], named := ["source", "line", "token"] }
  | .missingArgument | .unknownFlag => { ordered := ["token"] }

/-- Puts details under their names. -/
def Parameters.bind (ps : Parameters) (inOrder : List Value) (byName : Table String Value) :
    Except Failure (Table String Value) :=
  let placed := ps.ordered.zip inOrder
  let known := byName.keys.all fun k => ps.ordered.contains k || ps.named.contains k
  let once := placed.all fun (k, _) => !byName.contains k
  let bound := (Table.ofList placed).putAll byName.entries
  let complete := ps.ordered.all fun k => bound.contains k || ps.missable.contains k
  if inOrder.length ≤ ps.ordered.length && known && once && complete then .ok bound
  else .error .wrongKind

/-- The text of a detail. -/
def textDetail (details : Table String Value) (name : String) : String :=
  ((details.get? name).map Value.toText).getD ""

/-- The text of a detail that may be missing. -/
def textDetail? (details : Table String Value) (name : String) : Option String :=
  match details.get? name with
  | some .nothing | none => none
  | some v => some v.toText

/-- The place that details tell. -/
def placeDetail (details : Table String Value) : Place where
  source := textDetail? details "source"
  line :=
    match details.get? "line" with
    | some (.int n) => some n
    | _ => none
  token := textDetail? details "token"

/-- The problem of a kind with details. -/
def Problem.ofDetails (kind : ProblemKind) (inOrder : List Value) (byName : Table String Value) :
    Except Failure Problem :=
  match kind with
  | .general => if byName.entries.isEmpty then .ok (.general inOrder) else .error .wrongKind
  | _ =>
    (kind.parameters.bind inOrder byName).map fun details =>
      let text := textDetail details
      let place := placeDetail details
      match kind with
      | .general => .general inOrder
      | .unknownVariable => .unknownVariable (text "name")
      | .badOption =>
        .badOption (text "option")
          ((textDetail? details "reason").getD "is not a valid configuration option")
      | .notCallable => .notCallable (text "option")
      | .reading => .reading (.general (text "message")) place
      | .unreadable => .reading (.unreadable (text "message")) place
      | .unsplit => .reading (.unsplit (text "message")) place
      | .undefinedVariable => .reading (.undefinedVariable (text "name")) place
      | .rejected =>
        .reading (.rejected (text "name") ((details.get? "value").getD .nothing)) place
      | .missingArgument => .reading .missingArgument place
      | .unknownFlag => .reading .unknownFlag place

end ConfigVars
