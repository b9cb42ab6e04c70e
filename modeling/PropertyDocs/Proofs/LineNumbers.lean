import PropertyDocs.Proofs.Inversion

/-!
# Numbers of lines

The number of a line goes through a scan untouched: it is read off where an element ends or the
document stops being well-formed, and nothing is decided by it. Two inputs of the same characters
are scanned alike whatever lines they stand on, up to the lines in the trees that come out.
-/
namespace PropertyDocs.Xml

/-! ## Scans of the same characters -/

/-- The same characters, on whatever lines. -/
structure Input.Alike (i i' : Input) : Prop where
  chars : i'.rest.map (·.char) = i.rest.map (·.char)
  complete : i'.complete = i.complete

theorem Input.Alike.length {i i' : Input} (h : i.Alike i') : i'.rest.length = i.rest.length := by
  simpa using congrArg List.length h.chars

theorem Input.Alike.drop {i i' : Input} (h : i.Alike i') (n : Nat) :
    Input.Alike { i with rest := i.rest.drop n } { i' with rest := i'.rest.drop n } where
  chars := by simp only [List.map_drop, h.chars]
  complete := h.complete

namespace Scan

section
variable {α α' β β' : Type}

/-- Both fail, or both give results that are related and leave the same characters. -/
inductive SameOutcome (R : α → α' → Prop) :
    Except Malformed (α × Input) → Except Malformed (α' × Input) → Prop
  | ok {a : α} {a' : α'} {j j' : Input} :
      R a a' → j.Alike j' → SameOutcome R (.ok (a, j)) (.ok (a', j'))
  | error (e e' : Malformed) : SameOutcome R (.error e) (.error e')

def Alike (R : α → α' → Prop) (m : Scan α) (m' : Scan α') : Prop :=
  ∀ i i', i.Alike i' → SameOutcome R (m.run i) (m'.run i')

/-- What the scan gives does not depend on the lines. -/
abbrev Lineless (m : Scan α) : Prop := Alike Eq m m

variable {R : α → α' → Prop} {S : β → β' → Prop}

theorem Alike.bind {m : Scan α} {m' : Scan α'} {f : α → Scan β} {f' : α' → Scan β'}
    (hm : Alike R m m') (hf : ∀ a a', R a a' → Alike S (f a) (f' a')) :
    Alike S (m >>= f) (m' >>= f') := by
  intro i i' hi
  rw [StateT.run_bind, StateT.run_bind]
  match m.run i, m'.run i', hm i i' hi with
  | _, _, .ok ha hj => exact hf _ _ ha _ _ hj
  | _, _, .error e e' => exact .error e e'

theorem Lineless.bind {m : Scan α} {f : α → Scan β} {f' : α → Scan β'} (hm : Lineless m)
    (hf : ∀ a, Alike S (f a) (f' a)) : Alike S (m >>= f) (m >>= f') :=
  Alike.bind hm fun a _ ha => ha ▸ hf a

theorem alike_pure {a : α} {a' : α'} (h : R a a') : Alike R (pure a) (pure a') :=
  fun _ _ hi => .ok h hi

theorem lineless_pure (a : α) : Lineless (pure a : Scan α) := alike_pure rfl

theorem alike_stop : Alike R (stop : Scan α) (stop : Scan α') := fun _ _ _ => .error _ _

theorem alike_stop_bind {f : α → Scan β} {f' : α' → Scan β'} :
    Alike S (stop >>= f) (stop >>= f') := fun _ _ _ => .error _ _

theorem alike_ite {c : Prop} [Decidable c] {m n : Scan α} {m' n' : Scan α'} (hm : Alike R m m')
    (hn : Alike R n n') : Alike R (if c then m else n) (if c then m' else n') := by
  split
  · exact hm
  · exact hn

theorem alike_get_bind {f : Input → Scan α} {f' : Input → Scan α'}
    (h : ∀ i i', i.Alike i' → Alike R (f i) (f' i')) : Alike R (get >>= f) (get >>= f') :=
  fun i i' hi => h i i' hi i i' hi

end

/-! ## Small scanners -/

theorem lineless_peek : Lineless peek := fun i i' hi => by
  refine .ok ?_ hi
  rw [← List.head?_map, ← List.head?_map, hi.chars]

theorem lineless_pass (n : Nat) : Lineless (pass n) := fun _ _ hi => .ok rfl (hi.drop n)

theorem lineless_takeWhile (p : Char → Bool) : Lineless (takeWhile p) := by
  intro i i' hi
  have htaken (j : Input) : (j.rest.takeWhile fun x => p x.char).map (·.char) =
      (j.rest.map (·.char)).takeWhile p := List.takeWhile_map.symm
  have hchars := (htaken i).trans ((congrArg _ hi.chars.symm).trans (htaken i').symm)
  have hlength : (i'.rest.takeWhile fun x => p x.char).length =
      (i.rest.takeWhile fun x => p x.char).length := by
    simpa using (congrArg List.length hchars).symm
  refine .ok hchars ?_
  rw [hlength]
  exact hi.drop _

theorem lineless_sees (text : List Char) : Lineless (sees text) := fun i i' hi => by
  refine .ok ?_ hi
  rw [List.map_take, List.map_take, hi.chars]

theorem lineless_accept (text : List Char) : Lineless (accept text) :=
  (lineless_sees text).bind fun _ =>
    alike_ite ((lineless_pass _).bind fun _ => lineless_pure true) (lineless_pure false)

theorem lineless_expect (text : List Char) : Lineless (expect text) :=
  (lineless_accept text).bind fun _ => alike_ite (lineless_pure ()) alike_stop

theorem lineless_spaces : Lineless spaces :=
  (lineless_takeWhile isSpace).bind fun _ => lineless_pure ()

theorem lineless_someSpace : Lineless someSpace :=
  (lineless_takeWhile isSpace).bind fun _ => alike_ite alike_stop (lineless_pure ())

theorem before?_congr (terminator : List Char) : ∀ {xs xs' : List Placed},
    xs'.map (·.char) = xs.map (·.char) → before? terminator xs' = before? terminator xs
  | [], [], _ => rfl
  | x :: xs, x' :: xs', h => by
    obtain ⟨hchar, hrest⟩ := List.cons.inj h
    simp only [before?, List.map_take, h, hchar, before?_congr terminator hrest]

theorem lineless_upTo (terminator : List Char) : Lineless (upTo terminator) :=
  alike_get_bind fun i i' hi => by
    rw [before?_congr terminator hi.chars]
    cases before? terminator i.rest with
    | some cs => exact (lineless_pass _).bind fun _ => lineless_pure cs
    | none => exact fun _ _ _ => .error _ _

theorem lineless_plainName : Lineless plainName :=
  lineless_peek.bind fun
    | some _ => alike_ite (lineless_takeWhile _) alike_stop
    | none => alike_stop

theorem lineless_name : Lineless name :=
  lineless_peek.bind fun
    | some _ => alike_ite (lineless_takeWhile _) alike_stop
    | none => alike_stop

theorem lineless_qualifiedName : Lineless qualifiedName :=
  lineless_plainName.bind fun _ => (lineless_accept [':']).bind fun _ =>
    alike_ite (lineless_plainName.bind fun _ => lineless_pure _) (lineless_pure _)

theorem lineless_literal : Lineless literal :=
  lineless_peek.bind fun
    | some q => alike_ite ((lineless_pass 1).bind fun _ => lineless_upTo [q]) alike_stop
    | none => alike_stop

theorem lineless_equalsSign : Lineless equalsSign :=
  lineless_spaces.bind fun _ => (lineless_expect ['=']).bind fun _ => lineless_spaces

end Scan

/-! ## References and values -/

namespace Reference
open Scan

theorem lineless_numbered : Lineless numbered :=
  (lineless_accept ['x']).bind fun _ => (lineless_takeWhile _).bind fun digits => by
    split
    · exact alike_stop
    · exact (lineless_expect [';']).bind fun _ => alike_ite (lineless_pure _) alike_stop

theorem lineless_read : Lineless read :=
  (lineless_expect ['&']).bind fun _ => (lineless_accept ['#']).bind fun _ =>
    alike_ite (lineless_numbered.bind fun _ => lineless_pure _)
      (lineless_name.bind fun _ => (lineless_expect [';']).bind fun _ => lineless_pure _)

end Reference

namespace Scan
open Reference

theorem lineless_valueText (textOf : Reference → Option (List Char)) (terminator : Option Char) :
    ∀ fuel, Lineless (valueText textOf terminator fuel)
  | 0 => alike_stop
  | fuel + 1 => by
    have ih := lineless_valueText textOf terminator fuel
    rw [valueText]
    refine lineless_peek.bind fun c => ?_
    cases c with
    | none => exact alike_ite (lineless_pure []) alike_stop
    | some c =>
      refine alike_ite ((lineless_pass 1).bind fun _ => lineless_pure []) ?_
      refine alike_ite alike_stop (alike_ite (lineless_read.bind fun r => ?_) ?_)
      · cases textOf r with
        | some cs => exact ih.bind fun _ => lineless_pure _
        | none => exact alike_stop
      · exact (lineless_takeWhile _).bind fun _ => ih.bind fun _ => lineless_pure _

theorem lineless_attributeValue (es : Entities) : Lineless (attributeValue es) :=
  lineless_peek.bind fun
    | some q => alike_ite
        ((lineless_pass 1).bind fun _ => alike_get_bind fun i i' hi => by
          rw [hi.length]
          exact lineless_valueText _ _ _)
        alike_stop
    | none => alike_stop

theorem lineless_attributes (es : Entities) : ∀ fuel, Lineless (attributes es fuel)
  | 0 => alike_stop
  | fuel + 1 => by
    have ih := lineless_attributes es fuel
    rw [attributes]
    refine (lineless_takeWhile isSpace).bind fun _ => lineless_peek.bind fun c => ?_
    cases c with
    | none => exact alike_stop
    | some c =>
      refine alike_ite (lineless_pure []) (alike_ite ?_ alike_stop)
      exact lineless_qualifiedName.bind fun _ => lineless_equalsSign.bind fun _ =>
        (lineless_attributeValue es).bind fun _ => ih.bind fun _ => lineless_pure _

/-! ## Declarations -/

theorem lineless_comment : Lineless comment :=
  (lineless_upTo _).bind fun _ => (lineless_expect ['>']).bind fun _ => lineless_pure _

theorem lineless_instruction : Lineless instruction :=
  lineless_plainName.bind fun _ => alike_ite alike_stop_bind
    ((lineless_accept _).bind fun _ => alike_ite (lineless_pure _)
      (lineless_someSpace.bind fun _ => (lineless_upTo _).bind fun _ => lineless_pure _))

theorem lineless_externalId : Lineless externalId :=
  (lineless_accept _).bind fun _ => alike_ite
    (lineless_someSpace.bind fun _ => lineless_literal.bind fun _ => lineless_pure true)
    ((lineless_accept _).bind fun _ => alike_ite
      (lineless_someSpace.bind fun _ => lineless_literal.bind fun _ =>
        lineless_someSpace.bind fun _ => lineless_literal.bind fun _ => lineless_pure true)
      (lineless_pure false))

theorem lineless_entityValue (q : Char) : ∀ fuel, Lineless (entityValue q fuel)
  | 0 => alike_stop
  | fuel + 1 => by
    have ih := lineless_entityValue q fuel
    rw [entityValue]
    refine lineless_peek.bind fun
      | none => alike_stop
      | some c => ?_
    refine alike_ite ((lineless_pass 1).bind fun _ => lineless_pure []) ?_
    refine alike_ite alike_stop (alike_ite ?_ ?_)
    · exact lineless_read.bind fun _ => ih.bind fun _ => lineless_pure _
    · exact (lineless_takeWhile _).bind fun _ => ih.bind fun _ => lineless_pure _

theorem lineless_restOfDeclaration : ∀ fuel, Lineless (restOfDeclaration fuel)
  | 0 => alike_stop
  | fuel + 1 =>
    (lineless_takeWhile _).bind fun _ => (lineless_accept ['>']).bind fun _ =>
      alike_ite (lineless_pure ()) (lineless_literal.bind fun _ => lineless_restOfDeclaration fuel)

theorem lineless_entity : Lineless entity := by
  refine lineless_peek.bind fun
    | some q => alike_ite ?_ (lineless_externalId.bind fun _ => alike_ite ?_ alike_stop)
    | none => alike_stop
  · refine (lineless_pass 1).bind fun _ => alike_get_bind fun i i' hi => ?_
    rw [hi.length]
    exact (lineless_entityValue q _).bind fun _ => lineless_pure _
  · exact (lineless_takeWhile isSpace).bind fun _ => (lineless_accept _).bind fun _ =>
      alike_ite (lineless_someSpace.bind fun _ => lineless_plainName.bind fun _ => lineless_pure _)
        (lineless_pure _)

theorem lineless_entityDeclaration (d : Declarations) : Lineless (entityDeclaration d) := by
  have hnamed (parameter : Bool) : Lineless (do
      let name ← plainName
      someSpace
      let e ← entity
      spaces
      expect ['>']
      return if parameter then d else d.declare (String.ofList name) e) :=
    lineless_plainName.bind fun _ => lineless_someSpace.bind fun _ => lineless_entity.bind fun _ =>
      lineless_spaces.bind fun _ => (lineless_expect ['>']).bind fun _ => lineless_pure _
  exact lineless_someSpace.bind fun _ => (lineless_accept ['%']).bind fun parameter =>
    alike_ite (lineless_someSpace.bind fun _ => hnamed parameter) (hnamed parameter)

theorem lineless_attributeType : Lineless attributeType :=
  (lineless_accept _).bind fun _ => alike_ite (lineless_pure false)
    ((lineless_takeWhile _).bind fun _ => (lineless_takeWhile isSpace).bind fun _ =>
      (lineless_accept ['(']).bind fun _ => alike_ite
        ((lineless_upTo [')']).bind fun _ => lineless_pure true)
        (alike_ite alike_stop (lineless_pure true)))

theorem lineless_attributeRules (element : QName) : ∀ (fuel : Nat) (d : Declarations),
    Lineless (attributeRules d element fuel)
  | 0, _ => alike_stop
  | fuel + 1, d => by
    rw [attributeRules]
    refine lineless_spaces.bind fun _ => (lineless_accept ['>']).bind fun _ =>
      alike_ite (lineless_pure d) ?_
    refine lineless_qualifiedName.bind fun name => lineless_someSpace.bind fun _ =>
      lineless_attributeType.bind fun tokens => lineless_spaces.bind fun _ =>
      (lineless_accept _).bind fun _ => (lineless_accept _).bind fun _ => ?_
    have hrest (default : Option (List Char)) : Lineless (attributeRules (
        if (d.rule? element name).isSome then d
        else { d with attributes := d.attributes ++ [⟨element, name, tokens, default⟩] })
        element fuel) := lineless_attributeRules element fuel _
    have hvalue : Lineless (do
        let value ← attributeValue d.entities
        let default := some (if tokens then Declarations.spaced value else value)
        attributeRules (
          if (d.rule? element name).isSome then d
          else { d with attributes := d.attributes ++ [⟨element, name, tokens, default⟩] })
          element fuel) :=
      (lineless_attributeValue _).bind fun _ => hrest _
    exact alike_ite ((lineless_pure none).bind hrest) (alike_ite ((lineless_pure none).bind hrest)
      ((lineless_accept _).bind fun _ => alike_ite (lineless_someSpace.bind fun _ => hvalue) hvalue))

theorem lineless_declarations : ∀ (fuel : Nat) (d : Declarations), Lineless (declarations fuel d)
  | 0, _ => alike_stop
  | fuel + 1, d => by
    have ih := lineless_declarations fuel
    rw [declarations]
    refine lineless_spaces.bind fun _ => (lineless_accept _).bind fun _ =>
      alike_ite (lineless_pure d) ?_
    refine (lineless_accept _).bind fun _ => alike_ite
      (lineless_plainName.bind fun _ => (lineless_expect [';']).bind fun _ => ih d.opened) ?_
    refine (lineless_accept _).bind fun _ => alike_ite (lineless_comment.bind fun _ => ih d) ?_
    refine (lineless_accept _).bind fun _ => alike_ite (lineless_instruction.bind fun _ => ih d) ?_
    refine (lineless_accept _).bind fun _ =>
      alike_ite ((lineless_entityDeclaration d).bind fun d => ih d) ?_
    refine (lineless_accept _).bind fun _ => alike_ite ?_ ?_
    · refine lineless_someSpace.bind fun _ => lineless_qualifiedName.bind fun element =>
        alike_get_bind fun i i' hi => ?_
      rw [hi.length]
      exact (lineless_attributeRules element _ d).bind fun d => ih d
    · refine (lineless_accept _).bind fun _ => (lineless_accept _).bind fun _ =>
        alike_ite ?_ alike_stop
      refine lineless_someSpace.bind fun _ => lineless_qualifiedName.bind fun _ =>
        alike_get_bind fun i i' hi => ?_
      rw [hi.length]
      exact (lineless_restOfDeclaration _).bind fun _ => ih d

theorem lineless_doctype : Lineless doctype := by
  refine lineless_spaces.bind fun _ => lineless_qualifiedName.bind fun _ =>
    lineless_spaces.bind fun _ => lineless_externalId.bind fun outside =>
    lineless_spaces.bind fun _ => (lineless_accept ['[']).bind fun _ => alike_ite ?_ ?_
  · refine alike_get_bind fun i i' hi => ?_
    rw [hi.length]
    exact (lineless_declarations _ _).bind fun _ => lineless_spaces.bind fun _ =>
      (lineless_expect ['>']).bind fun _ => lineless_pure _
  · exact (lineless_expect ['>']).bind fun _ => lineless_pure _

theorem lineless_misc : ∀ fuel, Lineless (misc fuel)
  | 0 => alike_stop
  | fuel + 1 =>
    lineless_spaces.bind fun _ => (lineless_accept _).bind fun _ =>
      alike_ite (lineless_comment.bind fun _ => lineless_misc fuel)
        ((lineless_accept _).bind fun _ =>
          alike_ite (lineless_instruction.bind fun _ => lineless_misc fuel) (lineless_pure ()))

theorem lineless_prolog (standalone : Bool) : Lineless (prolog standalone) :=
  alike_get_bind fun i i' hi => by
    simp only [hi.length]
    exact (lineless_misc _).bind fun _ => (lineless_accept _).bind fun _ =>
      alike_ite (lineless_doctype.bind fun _ => (lineless_misc _).bind fun _ => lineless_pure _)
        (lineless_pure _)

end Scan

/-! ## Trees without lines -/

def Head.unplaced (h : Head) : Head := { h with line := 0 }

mutual

/-- The tree with all of its elements on line 0. -/
def Node.unplaced : Node → Node
  | .element h content => .element h.unplaced (unplacedIn content)
  | node => node

def unplacedIn : List Node → List Node
  | [] => []
  | node :: rest => node.unplaced :: unplacedIn rest

end

theorem unplacedIn_eq_map (content : List Node) : unplacedIn content = content.map (·.unplaced) := by
  induction content with
  | nil => rw [unplacedIn, List.map_nil]
  | cons node rest ih => rw [unplacedIn, List.map_cons, ih]

def StartTag.unplaced (t : StartTag) : StartTag := { t with head := t.head.unplaced }

namespace OpenElement

def unplaced (e : OpenElement) : OpenElement :=
  { e with head := e.head.unplaced, content := unplacedIn e.content }

@[simp] theorem unplaced_add (e : OpenElement) (n : Node) :
    (e.add n).unplaced = e.unplaced.add n.unplaced := by
  simp [unplaced, add, unplacedIn]

@[simp] theorem unplaced_addText (e : OpenElement) (cs : List Char) :
    (e.addText cs).unplaced = e.unplaced.addText cs := by
  obtain ⟨name, head, bindings, content⟩ := e
  cases content with
  | nil => simp [unplaced, addText, add, unplacedIn, Node.unplaced]
  | cons node rest => cases node <;> simp [unplaced, addText, add, unplacedIn, Node.unplaced]

@[simp] theorem unplaced_element (e : OpenElement) : e.element.unplaced = e.unplaced.element := by
  simp [unplaced, element, Node.unplaced, unplacedIn_eq_map]

@[simp] theorem unplaced_ofTag (t : StartTag) : (ofTag t).unplaced = ofTag t.unplaced := by
  simp [unplaced, ofTag, StartTag.unplaced, unplacedIn]

end OpenElement

namespace Scan

theorem alike_startTag (d : Declarations) (around : Bindings) :
    Alike (fun t t' => t'.unplaced = t.unplaced) (startTag d around) (startTag d around) := by
  refine lineless_qualifiedName.bind fun name => alike_get_bind fun i i' hi => ?_
  rw [hi.length]
  refine (lineless_attributes _ _).bind fun given => alike_get_bind fun i i' hi => ?_
  refine alike_ite alike_stop_bind ?_
  cases around.extended? (d.complete name given) with
  | none => exact alike_stop
  | some bindings =>
    dsimp only
    cases bindings.tag? name with
    | none => exact alike_stop
    | some tag =>
      dsimp only
      cases bindings.attributes? (d.complete name given) with
      | none => exact alike_stop
      | some named =>
        exact (lineless_accept ['/']).bind fun closed => (lineless_expect ['>']).bind fun _ =>
          alike_pure rfl

theorem lineless_markup : Lineless markup := by
  refine lineless_peek.bind fun
    | none => alike_stop
    | some c => alike_ite ?_ (alike_ite (lineless_pure _) (alike_ite ?_ (lineless_pure _)))
  · refine (lineless_accept _).bind fun _ => alike_ite (lineless_pure _) ?_
    refine (lineless_accept _).bind fun _ => alike_ite (lineless_pure _) ?_
    refine (lineless_accept _).bind fun _ => alike_ite (lineless_pure _) ?_
    refine (lineless_accept _).bind fun _ => alike_ite (lineless_pure _) ?_
    exact (lineless_pass 1).bind fun _ => lineless_pure _
  · exact (lineless_sees _).bind fun _ =>
      alike_ite alike_stop ((lineless_pass 1).bind fun _ => lineless_pure _)

theorem alike_content (d : Declarations) (allows : Bindings → String → Bool) :
    ∀ (fuel : Nat) {e e' : OpenElement} {around around' : List OpenElement},
      e'.unplaced = e.unplaced → around'.map (·.unplaced) = around.map (·.unplaced) →
      Alike (fun n n' => n'.unplaced = n.unplaced) (content d allows fuel e around)
        (content d allows fuel e' around')
  | 0, _, _, _, _, _, _ => alike_stop
  | fuel + 1, e, e', around, around', he, haround => by
    have ih := @alike_content d allows fuel
    have hname : e'.name = e.name := congrArg (·.name) he
    have hbindings : e'.bindings = e.bindings := congrArg (·.bindings) he
    have hadd {n n' : Node} (hn : n'.unplaced = n.unplaced) :
        (e'.add n').unplaced = (e.add n).unplaced := by simp [he, hn]
    have htext (cs : List Char) : (e'.addText cs).unplaced = (e.addText cs).unplaced := by simp [he]
    unfold content
    simp only [hname, hbindings]
    refine lineless_markup.bind fun markup => ?_
    cases markup with
    | endTag =>
      refine lineless_qualifiedName.bind fun name => lineless_spaces.bind fun _ =>
        (lineless_expect ['>']).bind fun _ => alike_ite alike_stop_bind ?_
      cases around with
      | nil =>
        obtain rfl : around' = [] := List.map_eq_nil_iff.1 haround
        exact alike_pure (by simp [he])
      | cons outer around =>
        obtain ⟨outer', around', rfl, houter, haround⟩ := List.map_eq_cons_iff.1 haround
        exact ih (by simp [he, houter]) haround
    | comment => exact lineless_comment.bind fun _ => ih (hadd rfl) haround
    | «section» => exact (lineless_upTo _).bind fun cs => ih (htext cs) haround
    | instruction => exact lineless_instruction.bind fun _ => ih (hadd rfl) haround
    | startTag =>
      refine (alike_startTag d e.bindings).bind fun t t' ht => ?_
      have hclosed : t'.closed = t.closed := congrArg (·.closed) ht
      have hhead : t'.head.unplaced = t.head.unplaced := congrArg (·.head) ht
      rw [hclosed]
      refine alike_ite (ih (hadd ?_) haround) (ih ?_ ?_)
      · simp [Node.unplaced, hhead]
      · simp [ht]
      · simp [he, haround]
    | reference =>
      refine Reference.lineless_read.bind fun r => ?_
      split
      · exact ih (htext _) haround
      · exact ih (htext _) haround
      · exact alike_ite (ih (hadd rfl) haround) alike_stop
    | bracket => exact ih (htext _) haround
    | text => exact (lineless_takeWhile _).bind fun cs => ih (htext cs) haround

/-- Whether the document stands alone, as its XML declaration tells. -/
def header : Scan Bool := do
  if ← seesDeclaration then
    let d ← declaration
    return d.standalone
  else return false

/-- What follows the XML declaration. -/
def afterHeader (standalone : Bool) : Scan Node := do
  let d ← prolog standalone
  expect ['<']
  let t ← startTag d .initial
  let n := (← get).rest.length + 1
  let root ←
    if t.closed then pure (.element t.head [])
    else content d (d.allows d.entities.depth) n (.ofTag t) []
  misc n
  let i ← get
  if i.rest.isEmpty && i.complete then return root else stop

theorem document_eq : document = header >>= afterHeader := by
  unfold document header
  rw [bind_assoc]
  congr 1
  funext seen
  cases seen with
  | true => exact (bind_assoc declaration _ afterHeader).symm
  | false => rfl

theorem alike_afterHeader (standalone : Bool) :
    Alike (fun n n' => n'.unplaced = n.unplaced) (afterHeader standalone)
      (afterHeader standalone) := by
  refine (lineless_prolog standalone).bind fun d => (lineless_expect ['<']).bind fun _ =>
    (alike_startTag d .initial).bind fun t t' ht => alike_get_bind fun i i' hi => ?_
  have hclosed : t'.closed = t.closed := congrArg (·.closed) ht
  have hhead : t'.head.unplaced = t.head.unplaced := congrArg (·.head) ht
  rw [hi.length, hclosed]
  have hend {root root' : Node} (hroot : root'.unplaced = root.unplaced) (n : Nat) :
      Alike (fun n n' => n'.unplaced = n.unplaced)
        (do
          misc n
          let i ← get
          if i.rest.isEmpty && i.complete then return root else stop)
        (do
          misc n
          let i ← get
          if i.rest.isEmpty && i.complete then return root' else stop) := by
    refine (lineless_misc n).bind fun _ => alike_get_bind fun i i' hi => ?_
    have hempty : i'.rest.isEmpty = i.rest.isEmpty := by
      rw [← List.isEmpty_map, hi.chars, List.isEmpty_map]
    rw [hempty, hi.complete]
    exact alike_ite (alike_pure hroot) alike_stop
  refine alike_ite ((alike_pure ?_).bind fun _ _ hroot => hend hroot _)
    ((alike_content _ _ _ ?_ rfl).bind fun _ _ hroot => hend hroot _)
  · simp [Node.unplaced, hhead]
  · simp [ht]

end Scan
end PropertyDocs.Xml

/-! ## Statements -/

namespace PropertyDocs.Grammar
open Xml

theorem rewritten_unplacedIn (p : Place) :
    ∀ content : List Node, Rewritten p content (unplacedIn content)
  | [] => by
    rw [unplacedIn]
    exact .nil p
  | .element h content :: rest => by
    rw [unplacedIn, Node.unplaced]
    exact .kept ⟨rfl, fun _ => rfl⟩ (rewritten_unplacedIn _ content) (rewritten_unplacedIn p rest)
  | .text s :: rest | .comment s :: rest | .instruction target data :: rest
  | .reference s :: rest => by
    simp only [unplacedIn, Node.unplaced]
    exact .other (by simp) (rewritten_unplacedIn p rest)

theorem toOption_document_unplaced (root : Node) :
    (document root.unplaced).toOption = (document root).toOption := by
  cases root with
  | element h content =>
    have htag : h.unplaced.tag = h.tag := rfl
    rw [Node.unplaced, document, document, htag]
    split
    · exact (rewritten_unplacedIn .block content).readAlike h h.unplaced
    · rfl
  | text | comment | instruction | reference => simp [Node.unplaced]

end PropertyDocs.Grammar
