import SeriesQuery.Error
import SeriesQuery.Target.Basic
import SeriesQuery.Text.Word

/-! Group-by clauses: the expressions that they are written as, a function name with one argument in
parentheses, where they go in a list, and what goes with them when they leave. -/

namespace SeriesQuery

namespace GroupBy

structure Expression where
  name : String
  argument : String
deriving DecidableEq

namespace Expression

/-- The argument as parameters; an empty one leaves them to the definition. -/
def params (e : Expression) : Option (List String) :=
  if e.argument.isEmpty then none else some [e.argument]

/-- What stands before the closing parenthesis at the very end of a line. -/
def unclosed? (cs : List Char) : Option (List Char) :=
  if cs.getLast? = some ')' ∧ !cs.contains '\n' ∧ !cs.contains '\r' then some cs.dropLast else none

def ofChars? (cs : List Char) : Option Expression :=
  match cs.takeWhile Text.isIdentifier, cs.dropWhile Text.isIdentifier with
  | [], _ => none
  | name, '(' :: rest => (unclosed? rest).map fun argument => ⟨.ofList name, .ofList argument⟩
  | _, _ => none

def ofText (text : String) : Except Error Expression :=
  match ofChars? text.toList with
  | some e => .ok e
  | none => .error (.notAnExpression text)

end Expression

open SavedPart

def without (type : String) (clauses : List SavedPart) : List SavedPart :=
  clauses.filter (·.type != type)

def endsWith (type : String) (clauses : List SavedPart) : Bool :=
  clauses.getLast?.any (·.type == type)

/-- A clause goes last, but `time` goes first and `tag` before a `fill` at the end. A new `time` or
`fill` replaces every old one. -/
def place (clause : SavedPart) (clauses : List SavedPart) : List SavedPart :=
  if clause.type = timeType then clause :: without timeType clauses
  else if clause.type = fillType then without fillType clauses ++ [clause]
  else if clause.type = tagType ∧ endsWith fillType clauses then
    clauses.dropLast ++ clause :: clauses.getLast?.toList
  else clauses ++ [clause]

end GroupBy

namespace Target

def addClause (clause : SavedPart) (target : Target) : Target :=
  { target with groupBy := GroupBy.place clause target.groupBy }

/-- Takes a clause away. Without a sampling window neither `fill` clauses nor parts that work on
each series have a meaning, so they go with a `time` clause. -/
def removeClause (index : Nat) (target : Target) : Target :=
  let rest := target.groupBy.eraseIdx index
  match target.groupBy[index]? with
  | some removed =>
    if removed.type = SavedPart.timeType then
      { target with
        groupBy := GroupBy.without SavedPart.fillType rest
        select := target.select.map (·.filter (·.scope != .known .forEach)) }
    else { target with groupBy := rest }
  | none => target

end Target

end SeriesQuery
