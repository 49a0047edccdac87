import SeriesQuery.Template.Placeholder
import SeriesQuery.Template.Variable

/-!
The substitution of variables. A placeholder with a known name is replaced by the variable, any
other one stays as it is written, and inserted text is not looked at again.
-/

namespace SeriesQuery.Template

def substitute (insert : Placeholder → Option String) (text : String) : String :=
  .ofList <| (segments text.toList).flatMap fun
    | .char c => [c]
    | .placeholder p =>
      match insert p with
      | some inserted => inserted.toList
      | none => p.source

def resolve? (panel vars : Variables) (name : String) : Option Variable :=
  (panel.get? name).or (vars.get? name)

def substituteWith (panel vars : Variables) (insert : Placeholder → Variable → String)
    (text : String) : String :=
  substitute (fun p => (resolve? panel vars (.ofList p.name)).map (insert p)) text

/-- How variables are resolved: not at all, from a set of dashboard variables, or by functions of
one's own. Those are given the variables of the panel, and `replace` also the format of the call. -/
inductive Service
  | inert
  | dashboard (vars : Variables)
  | custom (replace : Variables → Option String → String → String)
      (replaceWithText : Variables → String → String)

/-- A service together with the variables of one panel, which hide dashboard variables of the same
name. -/
structure Context where
  service : Service
  panel : Variables

namespace Context

/-- Replaces variables by their values. The format of a placeholder goes before that of the call. -/
def replace (context : Context) (format : Option String) (text : String) : String :=
  match context.service with
  | .inert => text
  | .dashboard vars =>
    let insert (p : Placeholder) (v : Variable) :=
      v.value.format ((p.format.map String.ofList).or format)
    substituteWith context.panel vars insert text
  | .custom replace _ => replace context.panel format text

def replaceWithText (context : Context) (text : String) : String :=
  match context.service with
  | .inert => text
  | .dashboard vars => substituteWith context.panel vars (fun _ v => v.text) text
  | .custom _ replaceWithText => replaceWithText context.panel text

/-- Writes a value as JSON, replaces the variables in the text and reads the value back. -/
def throughJson {α : Type} (context : Context) (encode : α → Json) (reader : Json.Reader α)
    (value : α) : Except Refusal α :=
  reader.run (context.replace none (encode value).text)

end Context

end SeriesQuery.Template
