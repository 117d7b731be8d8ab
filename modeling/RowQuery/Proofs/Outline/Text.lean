import RowQuery.Node.Text

/-!
Outlines of nodes. All that the text of operations over members shows is the
names of the members and the operators between and before them. A text is cut
into tokens at its spaces and parentheses, and cutting the text of an outline
gives the tokens that it was written from.
-/

namespace RowQuery

inductive Outline where
  | leaf (name : String)
  | unary (op : UnaryOp) (operand : Outline)
  | binary (op : BinaryOp) (left right : Outline)
deriving DecidableEq, Repr

inductive Token where
  | word (text : String)
  | unary (op : UnaryOp)
  | binary (op : BinaryOp)
  | opening
  | closing
deriving DecidableEq, Repr

def Text.endsWord (c : Char) : Bool :=
  c = ' ' || c = '(' || c = ')'

def UnaryOp.all : List UnaryOp :=
  [.not, .negate]

namespace Token

def ofWord (word : String) : Token :=
  match BinaryOp.all.find? fun op => op.keyword == word with
  | some op => .binary op
  | none =>
    match UnaryOp.all.find? fun op => op.keyword == word with
    | some op => .unary op
    | none => .word word

/-- The token of a word that has ended. Nothing is no word. -/
def ofEnded (word : List Char) : List Token :=
  if word.isEmpty then [] else [ofWord (String.ofList word)]

/-- The tokens of a text that goes on with the characters after those of a word. -/
def cut (word : List Char) : List Char → List Token
  | [] => ofEnded word
  | c :: rest =>
    if c = ' ' then ofEnded word ++ cut [] rest
    else if c = '(' then ofEnded word ++ .opening :: cut [] rest
    else if c = ')' then ofEnded word ++ .closing :: cut [] rest
    else cut (word ++ [c]) rest

def ofText (text : String) : List Token :=
  cut [] text.toList

theorem ofWord_binary (op : BinaryOp) : ofWord op.keyword = .binary op := by
  cases op <;> decide

theorem ofWord_unary (op : UnaryOp) : ofWord op.keyword = .unary op := by
  cases op <;> decide

end Token

def Text.isWord (text : String) : Bool :=
  !text.toList.isEmpty && text.toList.all fun c => !Text.endsWord c

/-- A name that stands in a text as a word of its own. Every identifier that is no keyword of an
operator is one. -/
def isPlainName (name : String) : Bool :=
  Text.isWord name && BinaryOp.all.all (fun op => op.keyword != name) &&
    UnaryOp.all.all fun op => op.keyword != name

namespace BinaryOp

def wraps (op : BinaryOp) : Outline → Bool
  | .binary child _ _ => op.parenthesizes child
  | _ => false

def wrapText (op : BinaryOp) (operand : Outline) (text : String) : String :=
  if op.wraps operand then "(" ++ text ++ ")" else text

def wrapTokens (op : BinaryOp) (operand : Outline) (tokens : List Token) : List Token :=
  if op.wraps operand then .opening :: (tokens ++ [.closing]) else tokens

end BinaryOp

namespace Outline

def names : Outline → List String
  | .leaf name => [name]
  | .unary _ operand => operand.names
  | .binary _ left right => left.names ++ right.names

def text : Outline → String
  | .leaf name => name
  | .unary op operand => op.keyword ++ " " ++ operand.text
  | .binary op left right =>
    op.wrapText left left.text ++ " " ++ op.keyword ++ " " ++ op.wrapText right right.text

def tokens : Outline → List Token
  | .leaf name => [.word name]
  | .unary op operand => .unary op :: operand.tokens
  | .binary op left right =>
    op.wrapTokens left left.tokens ++ .binary op :: op.wrapTokens right right.tokens

end Outline

def Node.outline? : Node → Option Outline
  | .binary op left right => do
    let l ← left.outline?
    let r ← right.outline?
    return .binary op l r
  | .unary op operand => do
    let t ← operand.outline?
    return .unary op t
  | .member ⟨[], m⟩ => if isPlainName m.name then some (.leaf m.name) else none
  | _ => none

section Cutting

variable {word rest : List Char} {name : String}

def Text.Breaks (rest : List Char) : Prop :=
  ∀ c ∈ rest.head?, Text.endsWord c = true

theorem Text.breaks_nil : Text.Breaks [] := by
  intro c hc
  cases hc

theorem Text.breaks_cons {c : Char} (hc : Text.endsWord c = true) : Text.Breaks (c :: rest) := by
  intro d hd
  cases hd
  exact hc

namespace Token

theorem cut_append (word cs rest : List Char) (hcs : ∀ c ∈ cs, Text.endsWord c = false) :
    cut word (cs ++ rest) = cut (word ++ cs) rest := by
  induction cs generalizing word with
  | nil => simp
  | cons c cs ih =>
    have hc := hcs c (by simp)
    simp only [Text.endsWord, Bool.or_eq_false_iff, decide_eq_false_iff_not] at hc
    obtain ⟨⟨hspace, hopening⟩, hclosing⟩ := hc
    rw [List.cons_append, cut, if_neg hspace, if_neg hopening, if_neg hclosing,
      ih (word ++ [c]) fun d hd => hcs d (by simp [hd])]
    simp

/-- A word ends where the text breaks. -/
theorem cut_of_breaks (word : List Char) (hrest : Text.Breaks rest) :
    cut word rest = ofEnded word ++ cut [] rest := by
  cases rest with
  | nil => simp [cut, ofEnded]
  | cons c cs =>
    have hc := hrest c rfl
    simp only [Text.endsWord, Bool.or_eq_true, decide_eq_true_eq] at hc
    rcases hc with (rfl | rfl) | rfl <;> simp [cut, ofEnded]

theorem cut_space (rest : List Char) : cut [] (' ' :: rest) = cut [] rest := by
  simp [cut, ofEnded]

theorem cut_opening (rest : List Char) : cut [] ('(' :: rest) = .opening :: cut [] rest := by
  simp [cut, ofEnded]

theorem cut_closing (rest : List Char) : cut [] (')' :: rest) = .closing :: cut [] rest := by
  simp [cut, ofEnded]

theorem cut_word (hname : Text.isWord name = true) (hrest : Text.Breaks rest) :
    cut [] (name.toList ++ rest) = ofWord name :: cut [] rest := by
  simp only [Text.isWord, Bool.and_eq_true, Bool.not_eq_true', List.isEmpty_eq_false_iff,
    List.all_eq_true] at hname
  obtain ⟨hname, hchars⟩ := hname
  rw [cut_append [] name.toList rest hchars, List.nil_append, cut_of_breaks _ hrest]
  simp [ofEnded, hname]

theorem cut_unary (op : UnaryOp) (rest : List Char) :
    cut [] (op.keyword.toList ++ ' ' :: rest) = .unary op :: cut [] rest := by
  have hword : Text.isWord op.keyword = true := by cases op <;> decide
  rw [cut_word hword (Text.breaks_cons rfl), ofWord_unary, cut_space]

theorem cut_binary (op : BinaryOp) (rest : List Char) :
    cut [] (op.keyword.toList ++ ' ' :: rest) = .binary op :: cut [] rest := by
  have hword : Text.isWord op.keyword = true := by cases op <;> decide
  rw [cut_word hword (Text.breaks_cons rfl), ofWord_binary, cut_space]

theorem ofWord_of_isPlainName (h : isPlainName name = true) : ofWord name = .word name := by
  simp only [isPlainName, Bool.and_eq_true, List.all_eq_true, bne_iff_ne] at h
  obtain ⟨⟨-, hbinary⟩, hunary⟩ := h
  have hb : BinaryOp.all.find? (fun op => op.keyword == name) = none := by
    rw [List.find?_eq_none]
    intro op hop
    simpa using hbinary op hop
  have hu : UnaryOp.all.find? (fun op => op.keyword == name) = none := by
    rw [List.find?_eq_none]
    intro op hop
    simpa using hunary op hop
  rw [ofWord, hb, hu]

theorem cut_plainName (h : isPlainName name = true) (hrest : Text.Breaks rest) :
    cut [] (name.toList ++ rest) = .word name :: cut [] rest := by
  have hword : Text.isWord name = true := by
    simp only [isPlainName, Bool.and_eq_true] at h
    exact h.1.1
  rw [cut_word hword hrest, ofWord_of_isPlainName h]

/-- Parentheses around an operand are tokens of their own. -/
theorem cut_wrapText (op : BinaryOp) {t : Outline} (hrest : Text.Breaks rest)
    (ht : ∀ cs, Text.Breaks cs → cut [] (t.text.toList ++ cs) = t.tokens ++ cut [] cs) :
    cut [] ((op.wrapText t t.text).toList ++ rest) = op.wrapTokens t t.tokens ++ cut [] rest := by
  by_cases hwraps : op.wraps t = true
  · have hinner := ht (')' :: rest) (Text.breaks_cons rfl)
    rw [cut_closing] at hinner
    simp only [BinaryOp.wrapText, BinaryOp.wrapTokens, hwraps, if_true, String.toList_append,
      List.append_assoc]
    change cut [] ('(' :: (t.text.toList ++ ')' :: rest)) = _
    rw [cut_opening, hinner]
    simp
  · simp only [BinaryOp.wrapText, BinaryOp.wrapTokens, hwraps]
    exact ht rest hrest

/-- Cutting takes the tokens of an outline off the text that starts with the outline. -/
theorem cut_text (t : Outline) (rest : List Char) (ht : ∀ x ∈ t.names, isPlainName x = true)
    (hrest : Text.Breaks rest) : cut [] (t.text.toList ++ rest) = t.tokens ++ cut [] rest := by
  induction t generalizing rest with
  | leaf name => exact cut_plainName (ht name (by simp [Outline.names])) hrest
  | unary op operand ih =>
    have hoperand := ih rest ht hrest
    simp only [Outline.text, Outline.tokens, String.toList_append, List.append_assoc,
      List.cons_append]
    rw [← hoperand]
    exact cut_unary op _
  | binary op left right ihl ihr =>
    simp only [Outline.names, List.forall_mem_append] at ht
    have hright := cut_wrapText op hrest fun cs hcs => ihr cs ht.2 hcs
    have hspace : Text.Breaks (' ' :: (op.keyword.toList ++
        ' ' :: ((op.wrapText right right.text).toList ++ rest))) := Text.breaks_cons rfl
    have hleft := cut_wrapText op hspace fun cs hcs => ihl cs ht.1 hcs
    rw [cut_space, cut_binary, hright] at hleft
    simp only [Outline.text, Outline.tokens, String.toList_append, List.append_assoc,
      List.cons_append]
    exact hleft

/-- The text of an outline with plain names is cut into the tokens of the outline. -/
theorem ofText_text (t : Outline) (ht : ∀ x ∈ t.names, isPlainName x = true) :
    ofText t.text = t.tokens := by
  have h := cut_text t [] ht Text.breaks_nil
  rw [List.append_nil] at h
  rw [ofText, h]
  simp [cut, ofEnded]

end Token

end Cutting

section Nodes

variable {n l r : Node} {t : Outline} {op : BinaryOp}

theorem Node.outline?_binary (h : (Node.binary op l r).outline? = some t) :
    ∃ s u, l.outline? = some s ∧ r.outline? = some u ∧ t = .binary op s u := by
  obtain ⟨s, hs, h⟩ := Option.bind_eq_some_iff.mp h
  obtain ⟨u, hu, h⟩ := Option.bind_eq_some_iff.mp h
  exact ⟨s, u, hs, hu, (Option.some.inj h).symm⟩

theorem Node.outline?_unary {uop : UnaryOp} (h : (Node.unary uop n).outline? = some t) :
    ∃ s, n.outline? = some s ∧ t = .unary uop s := by
  obtain ⟨s, hs, h⟩ := Option.bind_eq_some_iff.mp h
  exact ⟨s, hs, (Option.some.inj h).symm⟩

theorem Node.outline?_member {p : MemberPath} (h : (Node.member p).outline? = some t) :
    t = .leaf p.text ∧ isPlainName p.text = true := by
  obtain ⟨parents, m⟩ := p
  cases parents with
  | nil =>
    simp only [Node.outline?] at h
    split at h
    · rename_i hname
      cases h
      exact ⟨rfl, hname⟩
    · cases h
  | cons parent rest => cases h

/-- Parentheses depend on the outline of an operand only. -/
theorem BinaryOp.wrap_of_outline? (op : BinaryOp) (text : String) (h : n.outline? = some t) :
    op.wrap n text = op.wrapText t text := by
  cases n with
  | binary child left right =>
    obtain ⟨s, u, -, -, rfl⟩ := Node.outline?_binary h
    rfl
  | unary uop operand =>
    obtain ⟨s, -, rfl⟩ := Node.outline?_unary h
    rfl
  | member p =>
    obtain ⟨rfl, -⟩ := Node.outline?_member h
    rfl
  | _ => cases h

/-- A node that has an outline has the text of the outline, in which all names are plain. -/
theorem Node.text?_of_outline? (n : Node) (t : Outline) (h : n.outline? = some t) :
    n.text? = some t.text ∧ ∀ x ∈ t.names, isPlainName x = true := by
  cases n with
  | binary op left right =>
    obtain ⟨s, u, hs, hu, rfl⟩ := Node.outline?_binary h
    obtain ⟨hleft, hsnames⟩ := Node.text?_of_outline? left s hs
    obtain ⟨hright, hunames⟩ := Node.text?_of_outline? right u hu
    constructor
    · simp only [Node.text?, hleft, hright, op.wrap_of_outline? _ hs, op.wrap_of_outline? _ hu]
      rfl
    · simp only [Outline.names, List.forall_mem_append]
      exact ⟨hsnames, hunames⟩
  | unary op operand =>
    obtain ⟨s, hs, rfl⟩ := Node.outline?_unary h
    obtain ⟨hoperand, hnames⟩ := Node.text?_of_outline? operand s hs
    constructor
    · simp only [Node.text?, hoperand]
      rfl
    · exact hnames
  | member p =>
    obtain ⟨rfl, hname⟩ := Node.outline?_member h
    constructor
    · simp only [Node.text?]
      rfl
    · simpa [Outline.names] using hname
  | _ => cases h

end Nodes

end RowQuery
