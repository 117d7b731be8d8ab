import RowQuery.Proofs.Node.Parts
import RowQuery.Proofs.Text.Quoted

/-!
Names of types in literals. A name stands between quotes as it is, so a quote in
it is taken for the end of the literal or, next to another one, for a quote of
another name. The literal is read to its end, alone or inside any node, exactly
if the name is what some name is written as with its quotes doubled, and gives
the name itself exactly if there is no quote in it.
-/

namespace RowQuery

def Node.ofTypeName (name : String) : Node :=
  .constant (.typeRef (.named name)) .typeRef

theorem Node.text?_ofTypeName (name : String) :
    (Node.ofTypeName name).text? = some (TypeRef.named name).literal := by
  rw [ofTypeName, text?]
  rfl

namespace TypeRef

/-- The name of a type is quoted as it stands, so what is read from it is the text whose quotes,
doubled, give the name. -/
theorem readQuoted?_named (name : String) (s rest : List Char) (hrest : rest.head? ≠ some '\'') :
    Text.readQuoted? ((TypeRef.named name).literal.toList ++ rest) = some (s, rest) ↔
      name.toList = Text.doubleQuotes s := by
  have hliteral : (TypeRef.named name).literal.toList ++ rest =
      '\'' :: (name.toList ++ '\'' :: rest) := by
    simp [literal]
  rw [hliteral]
  exact Text.readQuoted?_between_iff _ _ hrest

/-- The literal of a named type gives the name back exactly if there is no quote in the name. In
the text of a node it is read to its end, and to no other place, under the same condition as
alone. -/
theorem readQuoted?_literal_iff (name : String) :
    (Text.readQuoted? (TypeRef.named name).literal.toList = some (name.toList, []) ↔
        '\'' ∉ name.toList) ∧
      ∀ (n : Node) (t : String), .ofTypeName name ∈ n.parts → n.text? = some t →
        ∃ before after, t = before ++ (TypeRef.named name).literal ++ after ∧
          (∀ s, Text.readQuoted? ((TypeRef.named name).literal ++ after).toList =
              some (s, after.toList) ↔ name.toList = Text.doubleQuotes s) ∧
          (Text.readQuoted? ((TypeRef.named name).literal ++ after).toList =
              some (name.toList, after.toList) ↔ '\'' ∉ name.toList) := by
  have hself : name.toList = Text.doubleQuotes name.toList ↔ '\'' ∉ name.toList := by
    rw [eq_comm]
    exact Text.doubleQuotes_eq_self_iff
  constructor
  · rw [← hself, ← readQuoted?_named name name.toList [] (by simp), List.append_nil]
  · intro n t hmem ht
    obtain ⟨s, hs, before, after, rfl, hafter⟩ := Node.standsIn_of_mem_parts n hmem ht
    rw [Node.text?_ofTypeName, Option.some.injEq] at hs
    subst hs
    refine ⟨before, after, rfl, ?_⟩
    rw [String.toList_append]
    exact ⟨fun s => readQuoted?_named name s _ hafter,
      (readQuoted?_named name name.toList _ hafter).trans hself⟩

end TypeRef

def Node.isOfType (name : String) : Node :=
  .call .isOf [.member (.ofMember (.declared "Home" .complex)), .ofTypeName name] .boolean

namespace TypeRef

theorem readQuoted?_literal_iff_address :
    .ofTypeName "Data.Address" ∈ (Node.isOfType "Data.Address").parts ∧
      (Node.isOfType "Data.Address").text? = some "isof(Home, 'Data.Address')" ∧
      (Text.readQuoted? (TypeRef.named "Data.Address").literal.toList =
          some ("Data.Address".toList, []) ↔ '\'' ∉ "Data.Address".toList) ∧
      ∃ before after, "isof(Home, 'Data.Address')" =
          before ++ (TypeRef.named "Data.Address").literal ++ after ∧
        (∀ s, Text.readQuoted? ((TypeRef.named "Data.Address").literal ++ after).toList =
            some (s, after.toList) ↔ "Data.Address".toList = Text.doubleQuotes s) ∧
        (Text.readQuoted? ((TypeRef.named "Data.Address").literal ++ after).toList =
            some ("Data.Address".toList, after.toList) ↔ '\'' ∉ "Data.Address".toList) := by
  have hmem : .ofTypeName "Data.Address" ∈ (Node.isOfType "Data.Address").parts := by
    simp [Node.isOfType, Node.ofTypeName, Node.parts, Node.allParts]
  have htext : (Node.isOfType "Data.Address").text? = some "isof(Home, 'Data.Address')" := by
    decide
  exact ⟨hmem, htext, (readQuoted?_literal_iff _).1, (readQuoted?_literal_iff _).2 _ _ hmem htext⟩

/-- The literal of a name with a quote ends at this quote. -/
theorem readQuoted?_literal_lostTail :
    (TypeRef.named "it's").literal = "'it's'" ∧
      Text.readQuoted? "'it's'".toList = some ("it".toList, "s'".toList) ∧
      (Node.isOfType "it's").text? = some "isof(Home, 'it's')" ∧
      Text.readQuoted? "'it's')".toList = some ("it".toList, "s')".toList) ∧
      ¬ Text.readQuoted? (TypeRef.named "it's").literal.toList = some ("it's".toList, []) := by
  exact ⟨by decide, by decide +kernel, by decide, by decide +kernel, by decide +kernel⟩

end TypeRef

end RowQuery
