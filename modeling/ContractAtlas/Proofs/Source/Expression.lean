import ContractAtlas.Source.Expression
import ContractAtlas.Proofs.Fold
import ContractAtlas.Proofs.Text.Boundary

/-!
Expressions that can be read back from their texts. A legible expression is made of words, signs,
binary operations and calls. Its text tells where it ends (`Legible.readable`), so two documents that
give the same text give the same expression (`text_eq_iff_of_spells`).

A call is written behind its callee, so a text is read as a head and the argument lists behind it
(`Form`); the induction carries the lists that have been taken off the end along with it.
-/
namespace ContractAtlas.Expression
set_option autoImplicit false
open Text

/-! ## Legible expressions -/

def isWordChar (c : Char) : Bool := c.isAlphanum || c == '_' || c == '$' || c == '.'

/-- A name or a number. -/
structure IsWord (s : String) : Prop where
  ne_empty : s ≠ ""
  chars : ∀ c ∈ s.toList, isWordChar c = true

/-- A character that may be the operator of a unary operation. -/
def isSign (c : Char) : Bool := !(isWordChar c || ['(', ')', ',', ' '].contains c)

/-- The operator of a binary operation. -/
structure IsOperator (s : String) : Prop where
  ne_empty : s ≠ ""
  no_space : ' ' ∉ s.toList

/-- Whether an expression may be called; a sign in front would count for the whole call. -/
def isCallee : Expression → Bool
  | .atom _ | .binary .. | .call .. => true
  | .unary .. | .unreadable _ => false

inductive Legible : Expression → Prop
  | atom {t : String} (ht : IsWord t) : Legible (.atom t)
  | unary {c : Char} {operand : Expression} (hc : isSign c = true) (h : Legible operand) :
    Legible (.unary (String.singleton c) operand)
  | binary {operator : String} {left right : Expression} (ho : IsOperator operator)
    (hleft : Legible left) (hright : Legible right) : Legible (.binary operator left right)
  | call {callee : Expression} {arguments : List Expression} (hform : callee.isCallee = true)
    (hcallee : Legible callee) (harguments : ∀ a ∈ arguments, Legible a) :
    Legible (.call callee arguments)

/-! ## Texts -/

def chars (e : Expression) : List Char := e.text.toList

/-- An argument with the comma before it. -/
def item (a : Expression) : List Char := ',' :: ' ' :: a.chars

/-- Arguments in parentheses. -/
def group : List Expression → List Char
  | [] => ['(', ')']
  | a :: rest => '(' :: a.chars ++ rest.flatMap item ++ [')']

theorem chars_atom (t : String) : (Expression.atom t).chars = t.toList := by
  rw [chars, text]

theorem chars_unary (c : Char) (operand : Expression) :
    (Expression.unary (String.singleton c) operand).chars = c :: operand.chars := by
  simp [chars, text]

theorem chars_binary (operator : String) (left right : Expression) (r : List Char) :
    (Expression.binary operator left right).chars ++ r =
      '(' :: (left.chars ++ ' ' :: (operator.toList ++ ' ' :: (right.chars ++ ')' :: r))) := by
  simp [chars, text]

theorem intercalate_chars (a : Expression) (rest : List Expression) :
    [',', ' '].intercalate ((a :: rest).map chars) = a.chars ++ rest.flatMap item := by
  induction rest generalizing a with
  | nil => simp
  | cons b rest ih =>
    rw [List.map_cons, List.map_cons, List.intercalate_cons_cons, ← List.map_cons, ih,
      List.flatMap_cons]
    simp [item]

theorem chars_call (callee : Expression) (arguments : List Expression) :
    (Expression.call callee arguments).chars = callee.chars ++ group arguments := by
  have htexts : (String.intercalate ", " (texts arguments)).toList =
      [',', ' '].intercalate (arguments.map chars) := by
    rw [texts_eq_map, String.toList_intercalate, List.map_map]
    rfl
  have hgroup : '(' :: [',', ' '].intercalate (arguments.map chars) ++ [')'] = group arguments := by
    cases arguments with
    | nil => rfl
    | cons a rest =>
      rw [intercalate_chars, group]
      rfl
  rw [← hgroup, ← htexts]
  simp [chars, text]

/-! ## Heads -/

/-- An expression called with one list of arguments after the other. -/
def applied (head : Expression) (lists : List (List Expression)) : Expression := lists.foldl call head

theorem chars_applied (head : Expression) (lists : List (List Expression)) :
    (applied head lists).chars = head.chars ++ lists.flatMap group :=
  foldl_append call chars chars_call lists head

/-- The forms of legible expressions, told by their first characters. -/
inductive Form : Expression → Prop
  | unary {c : Char} {operand : Expression} (hc : isSign c = true) (h : Legible operand) :
    Form (.unary (String.singleton c) operand)
  | atom {t : String} {lists : List (List Expression)} (ht : IsWord t)
    (hlists : ∀ l ∈ lists, ∀ a ∈ l, Legible a) : Form (applied (.atom t) lists)
  | binary {operator : String} {left right : Expression} {lists : List (List Expression)}
    (ho : IsOperator operator) (hleft : Legible left) (hright : Legible right)
    (hlists : ∀ l ∈ lists, ∀ a ∈ l, Legible a) : Form (applied (.binary operator left right) lists)

theorem applied_concat (head : Expression) (lists : List (List Expression))
    (arguments : List Expression) :
    applied head (lists ++ [arguments]) = .call (applied head lists) arguments := by
  simp [applied]

theorem Legible.form {e : Expression} (h : Legible e) : Form e := by
  induction h with
  | @atom t ht => exact @Form.atom t [] ht (List.forall_mem_nil _)
  | unary hc h => exact .unary hc h
  | @binary o left right ho hleft hright =>
    exact @Form.binary o left right [] ho hleft hright (List.forall_mem_nil _)
  | @call callee arguments hform hcallee harguments ih =>
    have hconcat {lists : List (List Expression)} (hlists : ∀ l ∈ lists, ∀ a ∈ l, Legible a) :
        ∀ l ∈ lists ++ [arguments], ∀ a ∈ l, Legible a := by
      simpa [or_imp, forall_and] using ⟨hlists, harguments⟩
    cases ih with
    | unary => cases hform
    | atom ht hlists =>
      rw [← applied_concat]
      exact .atom ht (hconcat hlists)
    | binary ho hleft hright hlists =>
      rw [← applied_concat]
      exact .binary ho hleft hright (hconcat hlists)

/-! ## Reading back -/

/-- What may stand behind an expression: no more of a word, and no arguments. -/
def Ends (r : List Char) : Prop := ∀ c ∈ r.head?, isWordChar c = false ∧ c ≠ '('

/-- Wherever the text of the expression is followed by what may stand behind it, it can be told from
the text of any other legible expression. -/
def Readable (e : Expression) : Prop :=
  ∀ {f}, Legible f → ∀ {r s}, Ends r → Ends s → e.chars ++ r = f.chars ++ s → e = f ∧ r = s

theorem ends_cons {c : Char} (hc : isWordChar c = false) (hc' : c ≠ '(') (r : List Char) :
    Ends (c :: r) := by
  intro d hd
  obtain rfl : c = d := by simpa using hd
  exact ⟨hc, hc'⟩

theorem item_append_inj {a b : Expression} (ha : Readable a) (hb : Legible b) {r s : List Char}
    (hr : Ends r) (hs : Ends s) (h : item a ++ r = item b ++ s) : a = b ∧ r = s := by
  simp only [item, List.cons_append, List.cons.injEq, true_and] at h
  exact ha hb hr hs h

theorem IsWord.first {t : String} (h : IsWord t) :
    ∃ c rest, t.toList = c :: rest ∧ isWordChar c = true := by
  cases ht : t.toList with
  | nil => exact absurd (String.toList_eq_nil_iff.mp ht) h.ne_empty
  | cons c rest => exact ⟨c, rest, rfl, h.chars c (ht ▸ List.mem_cons_self)⟩

theorem first_ne_close {e : Expression} (h : Legible e) : ∃ c rest, e.chars = c :: rest ∧ c ≠ ')' := by
  cases h.form with
  | @unary c operand hc =>
    refine ⟨c, operand.chars, chars_unary c operand, ?_⟩
    rintro rfl
    cases hc
  | @atom t lists ht =>
    obtain ⟨c, rest, hfirst, hc⟩ := ht.first
    refine ⟨c, rest ++ lists.flatMap group, ?_, ?_⟩
    · rw [chars_applied, chars_atom, hfirst, List.cons_append]
    · rintro rfl
      cases hc
  | binary =>
    rw [chars_applied, chars_binary]
    exact ⟨'(', _, rfl, by decide⟩

theorem group_append_inj {as bs : List Expression} (has : ∀ a ∈ as, Legible a ∧ Readable a)
    (hbs : ∀ b ∈ bs, Legible b) {r s : List Char} (h : group as ++ r = group bs ++ s) :
    as = bs ∧ r = s := by
  have hclose (r : List Char) : Ends (')' :: r) := ends_cons (by decide) (by decide) r
  have hcomma {r : List Char} (hr : r.head? = some ',') : Ends r := by
    obtain ⟨rest, rfl⟩ := List.head?_eq_some_iff.mp hr
    exact ends_cons (by decide) (by decide) rest
  have hitems (as : List Expression) (r : List Char) : Ends (as.flatMap item ++ ')' :: r) := by
    cases as with
    | nil => exact hclose r
    | cons a as => exact hcomma rfl
  cases as with
  | nil =>
    cases bs with
    | nil => simpa [group] using h
    | cons b bs =>
      -- An empty group is closed where the other has its first argument.
      obtain ⟨c, rest, hb, hc⟩ := first_ne_close (hbs b List.mem_cons_self)
      simp [group, hb, Ne.symm hc] at h
  | cons a as =>
    cases bs with
    | nil =>
      obtain ⟨c, rest, ha, hc⟩ := first_ne_close (has a List.mem_cons_self).1
      simp [group, ha, hc] at h
    | cons b bs =>
      simp only [group, List.cons_append, List.append_assoc, List.cons.injEq, true_and,
        List.nil_append] at h
      obtain ⟨rfl, hrest⟩ := (has a List.mem_cons_self).2 (hbs b List.mem_cons_self)
        (hitems as r) (hitems bs s) h
      have hitem : ∀ a ∈ as, ∀ b ∈ bs, ∀ {r s}, Ends r → Ends s → item a ++ r = item b ++ s →
          a = b ∧ r = s := fun a ha b hb _ _ =>
        item_append_inj (has a (List.mem_cons_of_mem _ ha)).2 (hbs b (List.mem_cons_of_mem _ hb))
      obtain ⟨rfl, hclosed⟩ := flatMap_append_inj (fun _ => rfl) hcomma hitem (hclose r) (hclose s)
        (by simp) (by simp) hrest
      exact ⟨rfl, (List.cons.inj hclosed).2⟩

theorem lists_append_inj {lists others : List (List Expression)}
    (hlists : ∀ l ∈ lists, ∀ a ∈ l, Legible a ∧ Readable a) (hothers : ∀ l ∈ others, ∀ a ∈ l, Legible a)
    {r s : List Char} (hr : Ends r) (hs : Ends s)
    (h : lists.flatMap group ++ r = others.flatMap group ++ s) : lists = others ∧ r = s := by
  have hopening (arguments : List Expression) : (group arguments).head? = some '(' := by
    cases arguments <;> rfl
  have hgroup : ∀ as ∈ lists, ∀ bs ∈ others, ∀ {r s}, True → True → group as ++ r = group bs ++ s →
      as = bs ∧ r = s := fun as has bs hbs _ _ _ _ => group_append_inj (hlists as has) (hothers bs hbs)
  exact flatMap_append_inj hopening (fun _ => trivial) hgroup trivial trivial
    (fun hopen => (hr _ hopen).2 rfl) (fun hopen => (hs _ hopen).2 rfl) h

/-- A word does not go on in the arguments behind it. -/
theorem word_ends (lists : List (List Expression)) {r : List Char} (hr : Ends r) :
    ∀ c ∈ (lists.flatMap group ++ r).head?, isWordChar c = false := by
  cases lists with
  | nil => exact fun c hc => (hr c hc).1
  | cons arguments lists =>
    intro c hc
    have hopening : c = '(' := by cases arguments <;> simpa [group, eq_comm] using hc
    subst hopening
    decide

theorem readable_applied_atom {t : String} (ht : IsWord t) {lists : List (List Expression)}
    (hlists : ∀ l ∈ lists, ∀ a ∈ l, Legible a ∧ Readable a) : Readable (applied (.atom t) lists) := by
  intro f hf r s hr hs h
  obtain ⟨c, rest, hfirst, hword⟩ := ht.first
  rw [chars_applied, List.append_assoc] at h
  cases hf.form with
  | @unary d operand hd =>
    rw [chars_unary, chars_atom, hfirst] at h
    obtain rfl : c = d := (List.cons.inj h).1
    simp [isSign, hword] at hd
  | atom hu hothers =>
    rw [chars_applied, List.append_assoc, chars_atom, chars_atom] at h
    obtain ⟨htext, hrest⟩ := append_inj_of_all ht.chars hu.chars (word_ends lists hr) (word_ends _ hs) h
    obtain ⟨rfl, rfl⟩ := lists_append_inj hlists hothers hr hs hrest
    exact ⟨by rw [String.toList_injective htext], rfl⟩
  | binary =>
    rw [chars_applied, List.append_assoc, chars_binary, chars_atom, hfirst] at h
    obtain rfl : c = '(' := (List.cons.inj h).1
    cases hword

theorem readable_applied_binary {operator : String} {left right : Expression}
    (ho : IsOperator operator) (hleft : Readable left) (hright : Readable right)
    {lists : List (List Expression)} (hlists : ∀ l ∈ lists, ∀ a ∈ l, Legible a ∧ Readable a) :
    Readable (applied (.binary operator left right) lists) := by
  intro f hf r s hr hs h
  rw [chars_applied, List.append_assoc, chars_binary] at h
  cases hf.form with
  | @unary d operand hd =>
    rw [chars_unary] at h
    obtain rfl : '(' = d := (List.cons.inj h).1
    cases hd
  | @atom u others hu =>
    obtain ⟨c, rest, hfirst, hword⟩ := hu.first
    rw [chars_applied, List.append_assoc, chars_atom, hfirst] at h
    obtain rfl : '(' = c := (List.cons.inj h).1
    cases hword
  | @binary operator' left' right' others ho' hleft' hright' hothers =>
    have hspace (r : List Char) : Ends (' ' :: r) := ends_cons (by decide) (by decide) r
    have hclose (r : List Char) : Ends (')' :: r) := ends_cons (by decide) (by decide) r
    rw [chars_applied, List.append_assoc, chars_binary] at h
    obtain ⟨rfl, hmiddle⟩ := hleft hleft' (hspace _) (hspace _) (List.cons.inj h).2
    have hinside {s : String} (ho : IsOperator s) : ∀ c ∈ s.toList, (c != ' ') = true :=
      fun c hc => bne_iff_ne.mpr fun hspace => ho.no_space (hspace ▸ hc)
    obtain ⟨hoperator, hbehind⟩ := append_inj_of_all (hinside ho) (hinside ho') (by simp) (by simp)
      (List.cons.inj hmiddle).2
    obtain ⟨rfl, hclosed⟩ := hright hright' (hclose _) (hclose _) (List.cons.inj hbehind).2
    obtain ⟨rfl, rfl⟩ := lists_append_inj hlists hothers hr hs (List.cons.inj hclosed).2
    exact ⟨by rw [String.toList_injective hoperator], rfl⟩

theorem readable_unary {c : Char} {operand : Expression} (hc : isSign c = true)
    (h : Readable operand) : Readable (.unary (String.singleton c) operand) := by
  intro f hf r s hr hs heq
  rw [chars_unary] at heq
  cases hf.form with
  | @unary d operand' hd hoperand' =>
    rw [chars_unary] at heq
    obtain ⟨rfl, hrest⟩ := List.cons.inj heq
    obtain ⟨rfl, rfl⟩ := h hoperand' hr hs hrest
    exact ⟨rfl, rfl⟩
  | @atom u others hu =>
    obtain ⟨d, rest, hfirst, hword⟩ := hu.first
    rw [chars_applied, List.append_assoc, chars_atom, hfirst] at heq
    obtain rfl : c = d := (List.cons.inj heq).1
    simp [isSign, hword] at hc
  | binary =>
    rw [chars_applied, List.append_assoc, chars_binary] at heq
    obtain rfl : c = '(' := (List.cons.inj heq).1
    cases hc

theorem Legible.readable_applied {e : Expression} (h : Legible e) {lists : List (List Expression)}
    (hform : e.isCallee = true ∨ lists = []) (hlists : ∀ l ∈ lists, ∀ a ∈ l, Legible a ∧ Readable a) :
    Readable (applied e lists) := by
  induction h generalizing lists with
  | atom ht => exact readable_applied_atom ht hlists
  | unary hc h ih =>
    obtain rfl := hform.resolve_left (by simp [isCallee])
    exact readable_unary hc (ih (.inr rfl) (List.forall_mem_nil _))
  | binary ho hleft hright ihleft ihright =>
    exact readable_applied_binary ho (ihleft (.inr rfl) (List.forall_mem_nil _))
      (ihright (.inr rfl) (List.forall_mem_nil _)) hlists
  | call hcallable hcallee harguments ihcallee ih =>
    -- The arguments are the first of the lists behind the callee.
    refine ihcallee (.inl hcallable) (List.forall_mem_cons.mpr ⟨fun a ha => ?_, hlists⟩)
    exact ⟨harguments a ha, ih a ha (.inr rfl) (List.forall_mem_nil _)⟩

/-- A legible expression and what stands behind it can be read from a text. -/
theorem Legible.readable {e : Expression} (h : Legible e) : Readable e :=
  h.readable_applied (.inr rfl) (List.forall_mem_nil _)

/-! ## Nodes -/

theorem ofJson_literal {node : Json} {t : String} (hkind : node.kind = "Literal")
    (hvalue : node.field "value" = .str t) : ofJson node = .atom t := by
  obtain ⟨fields, rfl⟩ := Json.exists_fields_of_kind hkind (by decide)
  rw [ofJson]
  simp only [hkind]
  rw [hvalue, ofJson]
  rfl

theorem ofJson_identifier {node : Json} (hkind : node.kind = "Identifier") :
    ofJson node = .atom (node.field "name").textOrEmpty := by
  obtain ⟨fields, rfl⟩ := Json.exists_fields_of_kind hkind (by decide)
  rw [ofJson]
  simp only [hkind]
  rfl

theorem ofJson_unary {node : Json} (hkind : node.kind = "UnaryOperation") :
    ofJson node =
      .unary (node.field "operator").textOrEmpty (ofJson (node.field "subExpression")) := by
  obtain ⟨fields, rfl⟩ := Json.exists_fields_of_kind hkind (by decide)
  rw [ofJson]
  simp only [hkind]

theorem ofJson_binary {node : Json} (hkind : node.kind = "BinaryOperation") :
    ofJson node = .binary (node.field "operator").textOrEmpty
      (ofJson (node.field "leftExpression")) (ofJson (node.field "rightExpression")) := by
  obtain ⟨fields, rfl⟩ := Json.exists_fields_of_kind hkind (by decide)
  rw [ofJson]
  simp only [hkind]

theorem ofJson_call {node : Json} (hkind : node.kind = "FunctionCall")
    (hcallee : (node.field "expression").isObject = true) :
    ofJson node = .call (ofJson (node.field "expression"))
      ((node.field "arguments").items.map ofJson) := by
  obtain ⟨fields, rfl⟩ := Json.exists_fields_of_kind hkind (by decide)
  rw [ofJson]
  simp only [hkind]
  rw [if_pos hcallee, List.attach_map_val]

/-- A document that spells an expression. Atoms are literals or identifiers, and whatever else stands
in a node is not looked at. -/
inductive Spells : Json → Expression → Prop
  | literal {node : Json} {t : String} (hkind : node.kind = "Literal")
    (hvalue : node.field "value" = .str t) (ht : IsWord t) : Spells node (.atom t)
  | identifier {node : Json} {t : String} (hkind : node.kind = "Identifier")
    (hname : node.field "name" = .str t) (ht : IsWord t) : Spells node (.atom t)
  | unary {node : Json} {c : Char} {operand : Expression} (hkind : node.kind = "UnaryOperation")
    (hoperator : node.field "operator" = .str (String.singleton c)) (hc : isSign c = true)
    (hoperand : Spells (node.field "subExpression") operand) :
    Spells node (.unary (String.singleton c) operand)
  | binary {node : Json} {operator : String} {left right : Expression}
    (hkind : node.kind = "BinaryOperation") (hoperator : node.field "operator" = .str operator)
    (ho : IsOperator operator) (hleft : Spells (node.field "leftExpression") left)
    (hright : Spells (node.field "rightExpression") right) : Spells node (.binary operator left right)
  | call {node : Json} {callee : Expression} {arguments : List Expression}
    (hkind : node.kind = "FunctionCall") (hform : callee.isCallee = true)
    (hcallee : Spells (node.field "expression") callee)
    (hlength : (node.field "arguments").items.length = arguments.length)
    (harguments : ∀ p ∈ (node.field "arguments").items.zip arguments, Spells p.1 p.2) :
    Spells node (.call callee arguments)

theorem Spells.legible {node : Json} {e : Expression} (h : Spells node e) : Legible e := by
  induction h with
  | literal _ _ ht | identifier _ _ ht => exact .atom ht
  | unary _ _ hc _ ih => exact .unary hc ih
  | binary _ _ ho _ _ ihleft ihright => exact .binary ho ihleft ihright
  | @call node callee arguments _ hform _ hlength _ ihcallee ih =>
    refine .call hform ihcallee fun a ha => ?_
    rw [← List.map_snd_zip (Nat.le_of_eq hlength.symm)] at ha
    obtain ⟨p, hp, rfl⟩ := List.mem_map.mp ha
    exact ih p hp

theorem Spells.isObject {node : Json} {e : Expression} (h : Spells node e) :
    node.isObject = true := by
  cases h with
  | literal hkind | identifier hkind | unary hkind | binary hkind | call hkind =>
    obtain ⟨fields, rfl⟩ := Json.exists_fields_of_kind hkind (by decide)
    rfl

theorem Spells.ofJson_eq {node : Json} {e : Expression} (h : Spells node e) : ofJson node = e := by
  induction h with
  | literal hkind hvalue => exact ofJson_literal hkind hvalue
  | identifier hkind hname =>
    rw [ofJson_identifier hkind, hname]
    rfl
  | unary hkind hoperator _ _ ih =>
    rw [ofJson_unary hkind, hoperator, ih]
    rfl
  | binary hkind hoperator _ _ _ ihleft ihright =>
    rw [ofJson_binary hkind, hoperator, ihleft, ihright]
    rfl
  | @call node callee arguments hkind _ hcallee hlength _ ihcallee ih =>
    have harguments : (node.field "arguments").items.map ofJson = arguments := calc
      _ = ((node.field "arguments").items.zip arguments |>.map Prod.fst).map ofJson := by
        rw [List.map_fst_zip (Nat.le_of_eq hlength)]
      _ = ((node.field "arguments").items.zip arguments).map Prod.snd := by
        rw [List.map_map]
        exact List.map_congr_left ih
      _ = arguments := List.map_snd_zip (Nat.le_of_eq hlength.symm)
    rw [ofJson_call hkind hcallee.isObject, ihcallee, harguments]

/-- Two documents have the same text just if they spell the same expression. -/
theorem text_eq_iff_of_spells {a b : Json} {e f : Expression} (ha : Spells a e) (hb : Spells b f) :
    (ofJson a).text = (ofJson b).text ↔ e = f := by
  have hnothing : Ends [] := fun _ h => nomatch h
  rw [ha.ofJson_eq, hb.ofJson_eq]
  refine ⟨fun htext => ?_, congrArg text⟩
  have hchars : e.chars ++ [] = f.chars ++ [] := congrArg (String.toList · ++ []) htext
  exact (ha.legible.readable hb.legible hnothing hnothing hchars).1

def minus (operand : Json) : Json :=
  .obj [("nodeType", .str "UnaryOperation"), ("operator", .str "-"), ("prefix", .bool true),
    ("subExpression", operand)]

/-- Seven more than another number. -/
def plusSeven (left : Json) : Json :=
  .obj [("nodeType", .str "BinaryOperation"), ("operator", .str "+"), ("leftExpression", left),
    ("rightExpression", .obj [("nodeType", .str "Literal"), ("value", .str "7")])]

def named (name : String) : Json := .obj [("nodeType", .str "Identifier"), ("name", .str name)]

def called (callee : Json) (arguments : List Json) : Json :=
  .obj [("nodeType", .str "FunctionCall"), ("expression", callee), ("arguments", .arr arguments)]

theorem spells_minus {operand : Json} {e : Expression} (h : Spells operand e) :
    Spells (minus operand) (.unary (String.singleton '-') e) :=
  .unary rfl rfl (by decide) h

theorem spells_plusSeven {left : Json} {e : Expression} (h : Spells left e) :
    Spells (plusSeven left) (.binary "+" e (.atom "7")) :=
  .binary rfl rfl ⟨by decide, by decide⟩ h (.literal rfl rfl ⟨by decide, List.all_eq_true.mp rfl⟩)

theorem spells_named {name : String} (h : IsWord name) : Spells (named name) (.atom name) :=
  .identifier rfl rfl h

/-- A call of what a call has given. -/
theorem spells_called_called {name : String} (hname : IsWord name) {argument : Json} {e : Expression}
    (h : Spells argument e) :
    Spells (called (called (named name) []) [argument]) (.call (.call (.atom name) []) [e]) :=
  .call rfl rfl (.call rfl rfl (spells_named hname) rfl (List.forall_mem_nil _)) rfl
    (List.forall_mem_singleton.mpr h)

/-- A sign before a sum is not a sign before its first summand. -/
theorem text_eq_iff_of_spells_factory :
    Spells (called (called (named "factory") []) [minus (plusSeven (named "a"))])
      (.call (.call (.atom "factory") [])
        [.unary (String.singleton '-') (.binary "+" (.atom "a") (.atom "7"))]) ∧
    Spells (called (called (named "factory") []) [plusSeven (minus (named "a"))])
      (.call (.call (.atom "factory") [])
        [.binary "+" (.unary (String.singleton '-') (.atom "a")) (.atom "7")]) ∧
    (ofJson (called (called (named "factory") []) [minus (plusSeven (named "a"))])).text ≠
      (ofJson (called (called (named "factory") []) [plusSeven (minus (named "a"))])).text := by
  have hfactory : IsWord "factory" := ⟨by decide, List.all_eq_true.mp rfl⟩
  have ha : Spells (named "a") (.atom "a") := spells_named ⟨by decide, List.all_eq_true.mp rfl⟩
  have houter := spells_called_called hfactory (spells_minus (spells_plusSeven ha))
  have hinner := spells_called_called hfactory (spells_plusSeven (spells_minus ha))
  refine ⟨houter, hinner, fun htext => ?_⟩
  cases (text_eq_iff_of_spells houter hinner).mp htext

end ContractAtlas.Expression
