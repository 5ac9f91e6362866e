import FieldFilter.Json.Record
import FieldFilter.Proofs.Json.WrittenTokens
import Mathlib.Data.List.Forall2

/-! What written JSON is read as. The text of a container is made of the texts of what it holds, and
its tree of their trees; so a text that is written as a whole is read back from its parts.
-/

namespace FieldFilter.Json

-----------------------------------------------------------------------------------------
-- The tokens of containers
-----------------------------------------------------------------------------------------

namespace Scan

/-- Texts that yield tokens still do with commas between them, by induction on the texts: a comma
closes what stands before it.
-/
theorem yields_intercalate {texts : List String} {parts : List (List Token)}
    (each : List.Forall₂ (fun text tokens => Yields text.toList tokens) texts parts)
    : Yields (String.intercalate "," texts).toList (List.intercalate [.comma] parts) := by
  induction each with
  | nil => exact fun _ _ _ => rfl
  | cons first later ih =>
      cases later with
      | nil =>
          rw [String.intercalate_singleton, List.intercalate_singleton]
          exact first
      | cons =>
          intro done rest closes
          rw [String.intercalate_cons_cons, List.intercalate_cons_cons]
          simp only [String.toList_append, List.append_assoc, List.reverse_append]
          exact (first _ _ (.inr ⟨',', by simp, _, rfl⟩)).trans (ih _ _ closes)

/-- A text between two brackets yields the tokens of the brackets and of what is between them. -/
theorem yields_brackets {opening closing : Char} {opened closed : Token} {text : List Char}
    {tokens : List Token} (starts : ∀ done, stepBetween done opening = some (push done opened))
    (ends : ∀ done, stepBetween done closing = some (push done closed))
    (closer : closing ∈ [',', ']', '\x7d']) (inner : Yields text tokens)
    : Yields (opening :: text ++ [closing]) (opened :: tokens ++ [closed]) := by
  intro done rest _
  have single {c : Char} {t : Token} (turns : ∀ done, stepBetween done c = some (push done t))
      (done : List Token) (text : List Char) : after done (c :: text) = after (t :: done) text := by
    have stepped : step ⟨done, .between⟩ c = some (push done t) := turns done
    rw [after, List.foldlM_cons, stepped]
    rfl
  calc
    after done (opening :: text ++ [closing] ++ rest)
        = after (opened :: done) (text ++ closing :: rest) := by
      rw [← single starts]
      simp
    _ = after (tokens.reverse ++ opened :: done) (closing :: rest) :=
      inner _ _ (.inr ⟨closing, closer, rest, rfl⟩)
    _ = after ((opened :: tokens ++ [closed]).reverse ++ done) rest := by
      rw [single ends]
      simp

end Scan

-----------------------------------------------------------------------------------------
-- The trees of containers
-----------------------------------------------------------------------------------------

namespace Tree

/-- The tokens of a value build a tree wherever a value may stand, first in an array or not. -/
structure BuiltFrom (tree : Tree) (tokens : List Token) : Prop where
  value : ∀ stack, tokens.foldlM Reading.step ⟨stack, .value⟩ = Reading.complete stack tree
  first : ∀ stack, tokens.foldlM Reading.step ⟨stack, .valueOrClose⟩ = Reading.complete stack tree

/-- A token that starts a value, does not close an array and completes the value builds it. -/
theorem builtFrom_scalar {tree : Tree} {t : Token} (apart : t ≠ .closeArray)
    (whole : ∀ stack, Reading.startValue stack t = Reading.complete stack tree)
    : tree.BuiltFrom [t] := by
  constructor <;> intro stack <;>
    simp [Reading.step, apart, whole]

/-- How a container is read: its brackets, the frame of what it holds so far, what may stand first
in it and what has to stand after a comma, and how it ends.
-/
structure Container (Item : Type) where
  left : Char
  right : Char
  opening : Token
  closing : Token
  frame : List Item → Frame
  first : Expectation
  again : Expectation
  tree : List Item → Tree
  starts : ∀ done, Scan.stepBetween done left = some (Scan.push done opening)
  ends : ∀ done, Scan.stepBetween done right = some (Scan.push done closing)
  closes : right ∈ [',', ']', '\x7d']
  opens : ∀ stack, Reading.startValue stack opening = some ⟨frame [] :: stack, first⟩
  apart : opening ≠ .closeArray
  comma
    : ∀ items stack,
        Reading.step ⟨frame items :: stack, .separator⟩ .comma = some ⟨frame items :: stack, again⟩
  close
    : ∀ items stack,
        Reading.step ⟨frame items :: stack, .separator⟩ closing
        = Reading.complete stack (tree items.reverse)
  empty
    : ∀ stack, Reading.step ⟨frame [] :: stack, first⟩ closing = Reading.complete stack (tree [])

namespace Container

def array : Container Tree where
  left := '['
  right := ']'
  opening := .openArray
  closing := .closeArray
  frame := .array
  first := .valueOrClose
  again := .value
  tree := .array
  starts _ := rfl
  ends _ := rfl
  closes := by decide
  opens _ := rfl
  apart := by decide
  comma _ _ := rfl
  close _ _ := rfl
  empty _ := rfl

def object : Container (List StringUnit × Tree) where
  left := '\x7b'
  right := '\x7d'
  opening := .openObject
  closing := .closeObject
  frame := .object
  first := .keyOrClose
  again := .key
  tree := .object
  starts _ := rfl
  ends _ := rfl
  closes := by decide
  opens _ := rfl
  apart := by decide
  comma _ _ := rfl
  close _ _ := rfl
  empty _ := rfl

variable {Item : Type} (container : Container Item)

/-- The tokens of an item add it to what the container holds, first in it or after a comma. -/
def Adds (item : Item) (tokens : List Token) : Prop :=
  ∀ next ∈ [container.first, container.again], ∀ items stack,
    tokens.foldlM Reading.step ⟨container.frame items :: stack, next⟩
    = some ⟨container.frame (item :: items) :: stack, .separator⟩

/-- Items with commas between them are added one after the other, by induction on all but the first.
-/
theorem foldlM_intercalate {item : Item} {tokens : List Token} {items : List Item}
    {parts : List (List Token)} (head : container.Adds item tokens)
    (each : List.Forall₂ container.Adds items parts) {next : Expectation}
    (expected : next ∈ [container.first, container.again]) (held : List Item)
    (stack : List Frame)
    : (List.intercalate [Token.comma] (tokens :: parts)).foldlM Reading.step
          ⟨container.frame held :: stack, next⟩
        = some ⟨container.frame ((item :: items).reverse ++ held) :: stack, .separator⟩ := by
  induction each generalizing item tokens next held with
  | nil =>
      rw [List.intercalate_singleton]
      exact head next expected held stack
  | cons second _ ih =>
      rw [List.intercalate_cons_cons, List.append_assoc, List.foldlM_append,
        head next expected held stack]
      simp only [Option.bind_eq_bind, Option.bind_some, List.singleton_append, List.foldlM_cons,
        container.comma]
      rw [ih second (by simp)]
      simp

/-- The tokens of the items between those of the brackets build the container. -/
theorem builtFrom {items : List Item} {parts : List (List Token)}
    (each : List.Forall₂ container.Adds items parts)
    : (container.tree items).BuiltFrom
        (container.opening :: List.intercalate [.comma] parts ++ [container.closing]) := by
  have inner (stack : List Frame)
      : (List.intercalate [.comma] parts ++ [container.closing]).foldlM Reading.step
            ⟨container.frame [] :: stack, container.first⟩
          = Reading.complete stack (container.tree items) := by
    cases each with
    | nil => simp [container.empty]
    | cons head later =>
        rw [List.foldlM_append, container.foldlM_intercalate head later (by simp)]
        simp [container.close]
  have value (stack : List Frame)
      : Reading.step ⟨stack, .value⟩ container.opening
        = some ⟨container.frame [] :: stack, container.first⟩ :=
    container.opens stack
  have first (stack : List Frame)
      : Reading.step ⟨stack, .valueOrClose⟩ container.opening
        = some ⟨container.frame [] :: stack, container.first⟩ :=
    (if_neg container.apart).trans (container.opens stack)
  constructor <;> intro stack
  · rw [List.cons_append, List.foldlM_cons, value]
    exact inner stack
  · rw [List.cons_append, List.foldlM_cons, first]
    exact inner stack

end Container

-----------------------------------------------------------------------------------------
-- Written trees
-----------------------------------------------------------------------------------------

/-- The text writes the tree: wherever a value may stand, it is read as that. -/
def IsWritten (tree : Tree) (text : String) : Prop :=
  ∃ tokens, Scan.Yields text.toList tokens ∧ tree.BuiltFrom tokens

/-- A text that writes a tree alone is read as the tree. -/
theorem IsWritten.read? {tree : Tree} {text : String} (written : tree.IsWritten text)
    : Tree.read? text = some tree := by
  obtain ⟨tokens, yielded, built⟩ := written
  have scanned : tokens? text.toList = some tokens := by
    have whole := yielded [] [] (.inl rfl)
    rw [List.append_nil, List.append_nil] at whole
    exact whole.trans (congrArg some (List.reverse_reverse tokens))
  rw [Tree.read?, scanned, Option.bind_some, ofTokens?, built.value]
  rfl

theorem isWritten_null : Tree.null.IsWritten "null" :=
  ⟨_, Scan.yields_null, builtFrom_scalar (by decide) fun _ => rfl⟩

theorem isWritten_integer (n : Int) : (Tree.number (.ofInt n)).IsWritten (integerText n) :=
  ⟨_, Scan.yields_integerText n, builtFrom_scalar (by simp) fun _ => rfl⟩

theorem isWritten_string (s : String)
    : (Tree.string (StringUnit.ofText s)).IsWritten (quoted s) :=
  ⟨_, Scan.yields_quoted s, builtFrom_scalar (by simp) fun _ => rfl⟩

namespace Container

variable {Item : Type} (container : Container Item)

/-- The text writes an item of the container. -/
def Writes (item : Item) (text : String) : Prop :=
  ∃ tokens, Scan.Yields text.toList tokens ∧ container.Adds item tokens

/-- Texts that write items of the container have tokens that do, by induction on the items. -/
theorem exists_parts {items : List Item} {texts : List String}
    (each : List.Forall₂ container.Writes items texts)
    : ∃ parts,
        List.Forall₂ (fun text tokens => Scan.Yields text.toList tokens) texts parts
        ∧ List.Forall₂ container.Adds items parts := by
  induction each with
  | nil => exact ⟨[], .nil, .nil⟩
  | cons first _ ih =>
      obtain ⟨tokens, yielded, added⟩ := first
      obtain ⟨parts, later, rest⟩ := ih
      exact ⟨tokens :: parts, .cons yielded later, .cons added rest⟩

/-- Texts that write the items of a container write it between its brackets. -/
theorem isWritten {items : List Item} {texts : List String}
    (each : List.Forall₂ container.Writes items texts)
    : (container.tree items).IsWritten
        (bracketed (.singleton container.left) (.singleton container.right) texts) := by
  obtain ⟨parts, yielded, added⟩ := container.exists_parts each
  refine ⟨_, ?_, container.builtFrom added⟩
  have text
      : (bracketed (.singleton container.left) (.singleton container.right) texts).toList
        = container.left :: (String.intercalate "," texts).toList ++ [container.right] := by
    simp [bracketed]
  rw [text]
  exact Scan.yields_brackets container.starts container.ends container.closes
    (Scan.yields_intercalate yielded)

end Container

/-- A text that writes a tree writes it as an item of an array. -/
theorem IsWritten.item {tree : Tree} {text : String} (written : tree.IsWritten text)
    : Container.array.Writes tree text := by
  obtain ⟨tokens, yielded, built⟩ := written
  refine ⟨tokens, yielded, fun next expected items stack => ?_⟩
  simp only [List.mem_cons, List.not_mem_nil, or_false] at expected
  rcases expected with rfl | rfl
  · exact built.first _
  · exact built.value _

/-- A text that writes a tree writes it as a member of an object behind its key. -/
theorem IsWritten.member {tree : Tree} {text : String} (written : tree.IsWritten text)
    (key : String)
    : Container.object.Writes (StringUnit.ofText key, tree) (quoted key ++ ":" ++ text) := by
  obtain ⟨tokens, yielded, built⟩ := written
  refine ⟨.string (StringUnit.ofText key) :: .colon :: tokens, ?_, ?_⟩
  · intro done rest closes
    simp only [String.toList_append, List.append_assoc]
    refine (Scan.after_quoted done key _).trans ((yielded _ _ closes).trans ?_)
    simp
  · intro next expected items stack
    simp only [List.mem_cons, List.not_mem_nil, or_false] at expected
    rcases expected with rfl | rfl
    · exact built.value _
    · exact built.value _

/-- A number of 64 bits is read back as it is written. -/
theorem word?_ofInt {n : Int} (fits : Word.Fits n) : (Tree.number (.ofInt n)).word? = some n := by
  obtain ⟨least, greatest⟩ := fits
  have bound : n < Word.count := lt_of_le_of_lt greatest (by decide)
  rw [Tree.word?, Tree.integer?, NumberLiteral.number?_ofInt least bound]
  exact if_pos ⟨least, greatest⟩

end Tree

/-- The items of an array are written one by one, by induction on the items. -/
theorem Value.compactItems_eq_map (items : List Value)
    : compactItems items = items.map compact := by
  induction items with
  | nil => rfl
  | cons item items ih => rw [compactItems, ih, List.map_cons]

-----------------------------------------------------------------------------------------
-- Written values
-----------------------------------------------------------------------------------------

namespace Value

/-- The value is a string or an integer of at most 64 bits, signed or not. -/
inductive IsExact : Value → Prop
  | string (s) : IsExact (.string s)
  | integer {n} (least : Word.least ≤ n) (bound : n < Word.count) : IsExact (.number (.integer n))

/-- An exact value is written as a tree that stands for it, by cases on the value. -/
theorem IsExact.exists_tree {v : Value} (h : v.IsExact)
    : ∃ tree : Tree, tree.IsWritten v.compact ∧ ∀ depth, tree.value? depth = some v := by
  cases h with
  | string s =>
      refine ⟨_, Tree.isWritten_string s, fun depth => ?_⟩
      rw [Tree.value?, StringUnit.text?_ofText, Option.map_some]
  | @integer n least bound =>
      refine ⟨_, Tree.isWritten_integer n, fun depth => ?_⟩
      rw [Tree.value?, NumberLiteral.number?_ofInt least bound, Option.map_some]

theorem IsExact.read?_compact {v : Value} (h : v.IsExact) : read? v.compact = some v := by
  obtain ⟨tree, written, stands⟩ := h.exists_tree
  rw [read?, written.read?, Option.bind_some, stands]

/-- An exact value is read back as the one member of an object. -/
theorem IsExact.read?_member {v : Value} (h : v.IsExact) (key : String)
    : read? (object [(key, v)]).compact = some (object [(key, v)]) := by
  obtain ⟨tree, written, stands⟩ := h.exists_tree
  have whole
      : (Tree.object [(StringUnit.ofText key, tree)]).IsWritten (object [(key, v)]).compact :=
    Tree.Container.object.isWritten (.cons (written.member key) .nil)
  rw [read?, whole.read?, Option.bind_some, Tree.maxDepth, Tree.value?, Tree.memberValues?,
    StringUnit.text?_ofText]
  simp [stands, Tree.memberValues?, insertMember]

end Value

end FieldFilter.Json
