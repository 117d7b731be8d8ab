import RowQuery.Proofs.Expr.Evaluating
import RowQuery.Proofs.Node.Typing
import RowQuery.Proofs.Outline.Number
import RowQuery.Proofs.Text.Numeral

/-!
Arithmetic on integers of 64 bits as text. Reads of columns and constants are
single words of the text, and every word is read back as an expression that has
the value of the one it was written for. So an expression is read back from its
text up to the grouping of chains.
-/

namespace RowQuery

namespace Text

def int64Literal? (word : String) : Option Int64 :=
  if word.toList.getLast? = some 'L' then
    (readInt (-2 ^ 63) (2 ^ 63 - 1) (String.ofList word.toList.dropLast)).toOption.map Int64.ofInt
  else none

/-- A literal of 64 bits is its numeral with the suffix L, and is read back as its integer. -/
theorem int64Literal?_intText (n : Int64) : int64Literal? (intText n.toInt ++ "L") = some n := by
  have hle := n.le_toInt
  have hlt := n.toInt_lt
  have hread : readInt (-2 ^ 63) (2 ^ 63 - 1) (intText n.toInt) = .ok n.toInt :=
    readInt_intText (by decide) (by decide) hle (by omega)
  have hnumeral : String.ofList (intText n.toInt ++ "L").toList.dropLast = intText n.toInt := by
    simp
  rw [int64Literal?, if_pos (by simp), hnumeral, hread]
  simp [Except.toOption]

theorem isWord_int64Literal (n : Int) : isWord (intText n ++ "L") = true := by
  have hdigit : ∀ c : Char, c.isDigit = true → endsWord c = false := by
    intro c hc
    simp only [endsWord, Bool.or_eq_false_iff, decide_eq_false_iff_not]
    refine ⟨⟨?_, ?_⟩, ?_⟩ <;> rintro rfl <;> exact absurd hc (by decide)
  have hnumeral : ∀ c ∈ intDigits n, endsWord c = false := by
    intro c hc
    rw [intDigits] at hc
    split at hc
    · rcases List.mem_cons.mp hc with rfl | hc
      · decide
      · exact hdigit c (isDigit_of_mem_natDigits hc)
    · exact hdigit c (isDigit_of_mem_natDigits hc)
  simp only [isWord, intText, String.toList_append, String.toList_ofList, Bool.and_eq_true,
    Bool.not_eq_true', List.all_append, List.all_eq_true]
  exact ⟨by simp, hnumeral, by simp [endsWord]⟩

end Text

theorem isPlainName_int64Literal (n : Int) : isPlainName (Text.intText n ++ "L") = true := by
  have hlast : (Text.intText n ++ "L").toList.getLast? = some 'L' := by simp
  have hbinary : ∀ op : BinaryOp, op.keyword.toList.getLast? ≠ some 'L' := by
    intro op
    cases op <;> decide
  have hunary : ∀ op : UnaryOp, op.keyword.toList.getLast? ≠ some 'L' := by
    intro op
    cases op <;> decide
  simp only [isPlainName, Text.isWord_int64Literal, Bool.true_and, Bool.and_eq_true,
    List.all_eq_true, bne_iff_ne]
  refine ⟨fun op _ h => hbinary op ?_, fun op _ h => hunary op ?_⟩
  · rw [h, hlast]
  · rw [h, hlast]

/-- A column name that stands in a text as a word of its own and is no literal. Every identifier
that is no keyword is one. -/
def isColumnWord (name : String) : Bool :=
  isPlainName name && name != "null" && (Text.int64Literal? name).isNone

def Expr.ofWord (row word : String) : Expr :=
  if word = "null" then .nullOf (.ofEdm .int64)
  else
    match Text.int64Literal? word with
    | some n => .ofValue (.int64 n)
    | none => .column (.row row) (.of (.primitive .int64) true) word

def Outline.toExpr (row : String) : Outline → Expr
  | .leaf word => .ofWord row word
  | .unary op operand => .unary op (operand.toExpr row)
  | .binary op left right => .binary op (left.toExpr row) (right.toExpr row)

/-- Normalized arithmetic on columns of a row and constants, all of them of 64 bits. -/
inductive Expr.Int64Arithmetic (row : String) : Expr → Prop
  | read (ordinal : Nat) (name : String) (nullable : Bool) (hname : isColumnWord name = true) :
    Int64Arithmetic row (.member (some (.row row))
      (.row ⟨ordinal, name, .of (.primitive .int64) nullable⟩))
  | constant (v : Value) (nullable : Bool) (hv : v.IsInt64) :
    Int64Arithmetic row (.constant v (.of (.primitive .int64) nullable))
  | captured (name : String) (v : Value) (nullable : Bool) (hv : v.IsInt64) :
    Int64Arithmetic row (.captured name v (.of (.primitive .int64) nullable))
  | operation {left right : Expr} (op : BinaryOp) (hop : op.isArithmetic = true)
    (hl : Int64Arithmetic row left) (hr : Int64Arithmetic row right) :
    Int64Arithmetic row (.binary op left right)

def Value.int64Word (v : Value) : String :=
  (v.literal? .int64).getD ""

def Expr.int64Outline : Expr → Outline
  | .member _ m => .leaf m.name
  | .constant v _ => .leaf v.int64Word
  | .captured _ v _ => .leaf v.int64Word
  | .binary op left right => .binary op left.int64Outline right.int64Outline
  | _ => .leaf ""

section Words

variable {row name : String} {v : Value} {b : Bindings}

theorem Value.IsInt64.literal? (h : v.IsInt64) : v.literal? .int64 = some v.int64Word := by
  rcases h with rfl | ⟨n, rfl⟩ <;> rfl

theorem Value.IsInt64.isPlainName (h : v.IsInt64) : isPlainName v.int64Word = true := by
  rcases h with rfl | ⟨n, rfl⟩
  · decide
  · exact isPlainName_int64Literal n.toInt

theorem Expr.ofWord_null (row : String) : Expr.ofWord row "null" = .nullOf (.ofEdm .int64) :=
  if_pos rfl

theorem Expr.ofWord_int64 (row : String) (n : Int64) :
    Expr.ofWord row (Value.int64 n).int64Word = .ofValue (.int64 n) := by
  have hword : (Value.int64 n).int64Word = Text.intText n.toInt ++ "L" := rfl
  have hnull : Text.intText n.toInt ++ "L" ≠ "null" := by
    intro h
    have hlast : (Text.intText n.toInt ++ "L").toList.getLast? = some 'L' := by simp
    rw [h] at hlast
    exact absurd hlast (by decide)
  rw [hword, Expr.ofWord, if_neg hnull, Text.int64Literal?_intText]

theorem Expr.ofWord_column (h : isColumnWord name = true) :
    Expr.ofWord row name = .column (.row row) (.of (.primitive .int64) true) name := by
  simp only [isColumnWord, Bool.and_eq_true, bne_iff_ne, Option.isNone_iff_eq_none] at h
  rw [Expr.ofWord, if_neg h.1.2, h.2]

theorem isPlainName_of_isColumnWord (h : isColumnWord name = true) : isPlainName name = true := by
  simp only [isColumnWord, Bool.and_eq_true] at h
  exact h.1.1

/-- The word of a constant is read back as its value. -/
theorem Expr.evaluate_ofWord_constant (b : Bindings) (hv : v.IsInt64) :
    (Expr.ofWord row v.int64Word).evaluate b = .ok v := by
  rcases hv with rfl | ⟨n, rfl⟩
  · exact congrArg (Expr.evaluate b) (Expr.ofWord_null row)
  · rw [Expr.ofWord_int64]
    rfl

end Words

section Texts

variable {row : String} {e : Expr} {v : Value} {n l r : Node} {t s : Outline}

/-- The node is of 64-bit integers and is written as the outline. -/
structure Node.WrittenAs (n : Node) (t : Outline) : Prop where
  type : n.type = .int64
  text : n.text? = some t.text
  wrap : ∀ (op : BinaryOp) (operand : String), op.wrap n operand = op.wrapText t operand

theorem Node.writtenAs_constant (hv : v.IsInt64) :
    (Node.constant v .int64).WrittenAs (.leaf v.int64Word) where
  type := rfl
  text := by
    rw [Node.text?, hv.literal?]
    rfl
  wrap _ _ := rfl

theorem Node.ofConstant_int64 (nullable : Bool) (hv : v.IsInt64) :
    Node.ofConstant v (.of (.primitive .int64) nullable) = .ok (.constant v .int64) := by
  rcases hv with rfl | ⟨n, rfl⟩ <;> rfl

theorem Node.writtenAs_binary (op : BinaryOp) (hop : op.isArithmetic = true) (hl : l.WrittenAs s)
    (hr : r.WrittenAs t) : (Node.binary op l r).WrittenAs (.binary op s t) where
  type := by
    have hboolean : op.isBoolean = false := by
      cases op <;> simp [BinaryOp.isArithmetic, BinaryOp.rank] at hop <;> rfl
    simp [Node.type, hboolean, hl.type]
  text := by
    simp only [Node.text?, hl.text, hr.text, hl.wrap, hr.wrap]
    rfl
  wrap _ _ := rfl

theorem Node.ofOperation_writtenAs (op : BinaryOp) (hl : l.WrittenAs s) (hr : r.WrittenAs t) :
    Node.ofOperation op l r = .ok (.binary op l r) :=
  Node.ofOperation_of_type_eq op (hl.type.trans hr.type.symm)

namespace Expr.Int64Arithmetic

/-- Every arithmetic expression is translated to a node that is written as its outline. -/
theorem exists_writtenAs (he : e.Int64Arithmetic row) :
    ∃ n, e.toNode = .ok n ∧ n.WrittenAs e.int64Outline := by
  induction he with
  | read ordinal name nullable hname =>
    exact ⟨.member (.ofMember (.row ⟨ordinal, name, .of (.primitive .int64) nullable⟩)), rfl,
      rfl, rfl, fun _ _ => rfl⟩
  | constant v nullable hv =>
    exact ⟨_, Node.ofConstant_int64 nullable hv, Node.writtenAs_constant hv⟩
  | captured name v nullable hv =>
    exact ⟨_, Node.ofConstant_int64 nullable hv, Node.writtenAs_constant hv⟩
  | operation op hop hl hr ihl ihr =>
    obtain ⟨l, htol, hlw⟩ := ihl
    obtain ⟨r, htor, hrw⟩ := ihr
    refine ⟨.binary op l r, ?_, Node.writtenAs_binary op hop hlw hrw⟩
    simp only [Expr.toNode, htol, htor]
    exact Node.ofOperation_writtenAs op hlw hrw

theorem isPlainName_of_mem_names (he : e.Int64Arithmetic row) :
    ∀ x ∈ e.int64Outline.names, isPlainName x = true := by
  induction he with
  | read ordinal name nullable hname =>
    simpa [int64Outline, Outline.names, Member.name] using isPlainName_of_isColumnWord hname
  | constant v nullable hv | captured name v nullable hv =>
    simpa [int64Outline, Outline.names] using hv.isPlainName
  | operation op hop hl hr ihl ihr =>
    rw [int64Outline, Outline.names, List.forall_mem_append]
    exact ⟨ihl, ihr⟩

theorem isArithmetic_outline (he : e.Int64Arithmetic row) : e.int64Outline.isArithmetic = true := by
  induction he with
  | read | constant | captured => rfl
  | operation op hop hl hr ihl ihr =>
    simp [int64Outline, Outline.isArithmetic, hop, ihl, ihr]

/-- The text is read back as the words and operators of the expression, with its chains regrouped
to the left. -/
theorem exists_text (he : e.Int64Arithmetic row) :
    ∃ n text, e.toNode = .ok n ∧ n.text? = some text ∧
      Outline.read? text = some e.int64Outline.leftRotated := by
  obtain ⟨n, hnode, hwritten⟩ := he.exists_writtenAs
  have hsigns := Outline.hasSigns_of_isArithmetic he.isArithmetic_outline
  exact ⟨n, _, hnode, hwritten.text, Outline.read?_text _ he.isPlainName_of_mem_names
    (Outline.signsOperation_of_hasSigns hsigns)⟩

end Expr.Int64Arithmetic

end Texts

end RowQuery
