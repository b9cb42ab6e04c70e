import PropertyDocs.Pattern.Basic
import PropertyDocs.Template

/-!
# Statements

A document is a list of statements. Statements change a level, expressions give texts, tests decide
between statements. Each family has one more form, a node of a kind that the family does not know,
which carries the name of its kind and is refused when it is reached.
-/
namespace PropertyDocs

/-- `TemplateExpr` or `Literal`. -/
inductive Expression (τ : Type := String) where
  | template (t : Template)
  | literal (value : τ)
  | foreign (kind : String)
deriving DecidableEq, Repr

/-- `Truthiness`, `Equals`, `Matches` or `Not`. -/
inductive Test (τ : Type := String) where
  /-- Whether the value of the key means yes. -/
  | truthy (key : Expression τ)
  | equals (key value : Expression τ) (caseSensitive : Bool)
  | matchesPattern (key : Expression τ) (pattern : Pattern)
  | not (test : Test τ)
  | foreign (kind : String)
deriving Repr

/-- `Assignment`: gives a key a value; one that is a default is used only where the key has none. -/
structure Assignment (τ : Type := String) where
  key : Expression τ
  value : Expression τ
  defaultOnly : Bool
  encrypted : Bool
deriving DecidableEq, Repr

/-- `Assignment`, `Block`, `Choose`, `Table`, `MatchPattern` or `ErrorStatement`. -/
inductive Statement (τ : Type := String) where
  | assign (a : Assignment τ)
  | block (body : List (Statement τ))
  /-- The body of the first test that holds. -/
  | choose (whens : List (Test τ × Statement τ)) (otherwise : Option (Statement τ))
  /-- The body of the first row that matches the fields of the selector. -/
  | table (selector : Expression τ) (separator : Option String)
      (rows : List (Pattern × Statement τ)) (otherwise : Option (Statement τ))
  /-- The body, with the groups of the match bound to the numerals from zero. -/
  | matchPattern (value : Expression τ) (pattern : Pattern) (body : Statement τ)
  | error (message : Expression τ)
  | foreign (kind : String)
deriving Repr

end PropertyDocs
