import PropertyDocs.Chain
import PropertyDocs.Statement

/-!
# Evaluation

A statement is run on a leaf level below given ancestors, which it only reads. The outcome keeps
the level and the calls of the decryptor also when an error ended the run.
-/
namespace PropertyDocs

/-- Turns the ciphertext of a key into its plain text, or fails with a message. -/
structure Decryptor (τ : Type := String) where
  decrypt : (key ciphertext : τ) → Except String τ

/-- What `execute` raises. -/
inductive EvaluationError (τ : Type := String) where
  /-- Raised by the document itself. -/
  | configuration (message : τ)
  | missingDecryptor (key : τ)
  | decryption (key : τ) (cause : String)
  | unknownStatement (kind : String)
  | unknownExpression (kind : String)
  | unknownTest (kind : String)
deriving DecidableEq, Repr

def EvaluationError.message : EvaluationError → String
  | configuration message => message
  | missingDecryptor key =>
    "Encountered encrypted value for '" ++ key ++ "', but no decryptor was supplied"
  | decryption key cause => "Failed to decrypt value for '" ++ key ++ "': " ++ cause
  | unknownStatement kind => "Unknown statement node: " ++ kind
  | unknownExpression kind => "Unknown expression node: " ++ kind
  | unknownTest kind => "Unknown test node: " ++ kind

section
variable {τ : Type} [DecidableEq τ] [Texts τ]

/-! ## Expressions and tests -/

/-- `evaluate_expression`. -/
def Expression.eval (c : Chain τ) : Expression τ → Except (EvaluationError τ) τ
  | template t => .ok (Texts.expand t c.value)
  | literal value => .ok value
  | foreign kind => .error (.unknownExpression kind)

/-- `_lookup`: the value of the key that an expression gives. -/
def Expression.lookup (c : Chain τ) (key : Expression τ) : Except (EvaluationError τ) τ :=
  (key.eval c).map c.value

/-- `evaluate_test`. -/
def Test.eval (c : Chain τ) : Test τ → Except (EvaluationError τ) Bool
  | truthy key => (key.lookup c).map Texts.isTruthy
  | equals key value caseSensitive => do
    let actual ← key.lookup c
    let expected ← value.eval c
    return if caseSensitive then actual == expected else Texts.equalsIgnoreCase actual expected
  | matchesPattern key pattern => (key.lookup c).map (Texts.isMatch pattern)
  | not test => (test.eval c).map (! ·)
  | foreign kind => .error (.unknownTest kind)

/-! ## Outcomes -/

structure Outcome (τ : Type := String) where
  level : Level τ
  /-- The calls of the decryptor, each a key and a ciphertext. -/
  calls : List (τ × τ)
  error : Option (EvaluationError τ)
deriving DecidableEq, Repr

namespace Outcome

def done (level : Level τ) : Outcome τ := ⟨level, [], none⟩

def failed (level : Level τ) (error : EvaluationError τ) : Outcome τ := ⟨level, [], some error⟩

/-- Goes on with `next` unless there was an error. -/
def andThen (o : Outcome τ) (next : Level τ → Outcome τ) : Outcome τ :=
  match o.error with
  | some _ => o
  | none =>
    let p := next o.level
    { p with calls := o.calls ++ p.calls }

/-- Changes the level, whether or not there was an error. -/
def mapLevel (o : Outcome τ) (f : Level τ → Level τ) : Outcome τ := { o with level := f o.level }

/-- Goes on with a value, or fails with the error found instead. -/
def onValue {α : Type} (level : Level τ) (value : Except (EvaluationError τ) α)
    (next : α → Outcome τ) : Outcome τ :=
  match value with
  | .ok a => next a
  | .error e => failed level e

end Outcome

/-! ## Capture bindings (`_match_pattern`) -/

/-- Binds the numerals from `i` on: a group that took no part has its numeral removed. -/
def bindFrom (i : Nat) : List (Option τ) → Level τ → Level τ
  | [], l => l
  | some text :: groups, l => bindFrom (i + 1) groups (l.put (Texts.numeral i) text)
  | none :: groups, l => bindFrom (i + 1) groups (l.remove (Texts.numeral i))

/-- Gives each of the numerals from `i` on, `n` in number, what it has in `old`. -/
def restoreFrom (old : Level τ) (i : Nat) : Nat → Level τ → Level τ
  | 0, l => l
  | n + 1, l =>
    restoreFrom old (i + 1) n
      (match old.get? (Texts.numeral i) with
        | some text => l.put (Texts.numeral i) text
        | none => l.remove (Texts.numeral i))

/-! ## Statements -/

/-- What a run depends on besides the leaf level. -/
structure Context (τ : Type := String) where
  decryptor : Option (Decryptor τ)
  ancestors : List (Level τ)

def Context.chain (ctx : Context τ) (l : Level τ) : Chain τ := ⟨l, ctx.ancestors⟩

/-- Decrypts a value (`decrypt_value`) and writes it. -/
def putDecrypted (decryptor : Option (Decryptor τ)) (key ciphertext : τ) (l : Level τ) :
    Outcome τ :=
  match decryptor with
  | none => .failed l (.missingDecryptor key)
  | some d =>
    match d.decrypt key ciphertext with
    | .ok plain => ⟨l.put key plain, [(key, ciphertext)], none⟩
    | .error cause => ⟨l, [(key, ciphertext)], some (.decryption key cause)⟩

/-- `_assign`: a default leaves an inherited value unchanged, but writes it to the leaf. -/
def Assignment.run (ctx : Context τ) (a : Assignment τ) (l : Level τ) : Outcome τ :=
  .onValue l (a.key.eval (ctx.chain l)) fun key =>
    let present := (ctx.chain l).value key
    if a.defaultOnly && present != Texts.empty then .done (l.put key present)
    else .onValue l (a.value.eval (ctx.chain l)) fun value =>
      if a.encrypted then putDecrypted ctx.decryptor key value l else .done (l.put key value)

mutual

/-- `execute`. -/
def Statement.run (ctx : Context τ) : Statement τ → Level τ → Outcome τ
  | .assign a, l => a.run ctx l
  | .block body, l => runAll ctx body l
  | .choose whens otherwise, l => runWhens ctx whens (runOption ctx otherwise) l
  | .table selector separator rows otherwise, l =>
    .onValue l (selector.eval (ctx.chain l)) fun text =>
      runRows ctx (Texts.splitSelector text separator) rows (runOption ctx otherwise) l
  | .matchPattern value pattern body, l =>
    .onValue l (value.eval (ctx.chain l)) fun text =>
      match Texts.fullMatch? pattern text with
      | none => .done l
      | some groups =>
        (body.run ctx (bindFrom 0 groups l)).mapLevel (restoreFrom l 0 groups.length)
  | .error message, l =>
    .onValue l (message.eval (ctx.chain l)) fun text => .failed l (.configuration text)
  | .foreign kind, l => .failed l (.unknownStatement kind)

/-- Runs statements one after another, up to the first error. -/
def runAll (ctx : Context τ) : List (Statement τ) → Level τ → Outcome τ
  | [], l => .done l
  | s :: rest, l => (s.run ctx l).andThen (runAll ctx rest)

/-- Runs a statement if there is one. -/
def runOption (ctx : Context τ) : Option (Statement τ) → Level τ → Outcome τ
  | none, l => .done l
  | some s, l => s.run ctx l

/-- Runs the body of the first test that holds, else what is left for the other cases. -/
def runWhens (ctx : Context τ) :
    List (Test τ × Statement τ) → (otherwise : Level τ → Outcome τ) → Level τ → Outcome τ
  | [], otherwise, l => otherwise l
  | (test, body) :: whens, otherwise, l =>
    .onValue l (test.eval (ctx.chain l)) fun holds =>
      if holds then body.run ctx l else runWhens ctx whens otherwise l

/-- Runs the body of the first row that matches, else what is left for the other cases. -/
def runRows (ctx : Context τ) (selector : τ) :
    List (Pattern × Statement τ) → (otherwise : Level τ → Outcome τ) → Level τ → Outcome τ
  | [], otherwise, l => otherwise l
  | (pattern, body) :: rows, otherwise, l =>
    if Texts.isMatch pattern selector then body.run ctx l else runRows ctx selector rows otherwise l

end

end

end PropertyDocs
