import RowQuery.Proofs.Command.Building

/-!
What the specifications of columns give when they are read. A column has a name
with more than white space, so a property can be registered for it, and the
constant of a filter is null or a value of the primitive type of its column, so
there is a node for it.
-/

namespace RowQuery

/-- What trimming leaves ends in a character that is no white space. -/
theorem Text.isAllBlank_trimmed {s : String} (h : (trimmed s).isEmpty = false) :
    isAllBlank (trimmed s) = false := by
  rw [trimmed, trim, trimStart] at h ⊢
  cases hrest : (trimStart s.toList).reverse.dropWhile isBlank with
  | nil => simp [hrest] at h
  | cons c rest =>
    have hne : (trimStart s.toList).reverse.dropWhile isBlank ≠ [] := by simp [hrest]
    have hc := List.head_dropWhile_not isBlank hne
    simp only [hrest, List.head_cons] at hc
    simp [isAllBlank, hc]

namespace Value

variable {text : String} {t : EdmType} {nullable : Bool} {v : Value}

theorem exists_of_orUnspecified {α : Type} {x : Option α} {make : α → Value}
    (h : orUnspecified (x.map make) = .ok v) : ∃ a, v = make a := by
  cases x with
  | none => cases h
  | some a =>
    cases h
    exact ⟨a, rfl⟩

/-- Every reader gives values of its own type. -/
theorem readPrimitive_type (h : readPrimitive t text = .ok v) : v.type? = some t := by
  cases t with
  | boolean =>
    rw [readPrimitive] at h
    unfold readBoolean at h
    split at h <;> cases h <;> rfl
  | byte | int16 | int32 | int64 =>
    simp only [readPrimitive, readInteger, EdmType.integerBounds?] at h
    split at h <;> cases h
    rfl
  | single | double =>
    rw [readPrimitive, readFloating] at h
    split at h <;> cases h
    rfl
  | decimal | dateTime | guid =>
    obtain ⟨a, rfl⟩ := exists_of_orUnspecified h
    rfl
  | string =>
    cases h
    rfl
  | binary =>
    rw [readPrimitive, readBinary] at h
    split at h <;> cases h
    rfl
  | typeRef =>
    rw [readPrimitive, readTypeRef] at h
    cases h
    split
    · split <;> rfl
    · rfl
  | complex => cases h

/-- A constant is null or of the primitive type that it is read as. -/
theorem readConstant_null_or_type (h : readConstant text (.of (.primitive t) nullable) = .ok v) :
    v.isNull = true ∨ v.type? = some t := by
  unfold readConstant at h
  split at h
  · split at h
    · cases h
      exact Or.inl rfl
    · cases h
  · split at h
    · cases h
    · rename_i htype
      cases htype
      split at h
      · rename_i hread
        cases h
        exact Or.inr (readPrimitive_type hread)
      · cases h
    · cases h

end Value

namespace ColumnSpec

variable {spec name : String} {parts : List String} {c : ColumnSpec}

theorem readParts_name (h : readParts spec name parts = .ok c) : c.name = name := by
  unfold readParts at h
  split at h
  · cases h
    rfl
  · obtain ⟨t, -, h⟩ := bind_eq_ok_iff.mp h
    cases h
    rfl
  · obtain ⟨t, -, h⟩ := bind_eq_ok_iff.mp h
    obtain ⟨d, -, h⟩ := bind_eq_ok_iff.mp h
    split at h
    · cases h
      rfl
    · cases h

theorem isAllBlank_of_read (h : read spec = .ok c) : Text.isAllBlank c.name = false := by
  unfold read at h
  dsimp only at h
  split at h
  · cases h
  · rename_i hname
    rw [readParts_name h]
    exact Text.isAllBlank_trimmed (eq_false_of_ne_true hname)

end ColumnSpec

/-- A filter that has been read can be turned into a comparison of a column with a constant. -/
theorem EqualitySpec.of_read {spec : String} {e : EqualitySpec} (h : read spec = .ok e) :
    Text.isAllBlank e.name = false ∧
      ∀ t nullable, e.type = .of (.primitive t) nullable →
        t ≠ .complex ∧ (e.value.isNull = true ∨ e.value.type? = some t) := by
  unfold read at h
  split at h
  · cases h
  · obtain ⟨c, hc, h⟩ := bind_eq_ok_iff.mp h
    dsimp only at h
    split at h
    · rename_i v hv
      cases h
      refine ⟨ColumnSpec.isAllBlank_of_read hc, fun t nullable htype => ⟨?_, ?_⟩⟩
      · rintro rfl
        cases hcolumn : c.type with
        | none => simp [hcolumn, ColumnType.string, ColumnType.ofEdm] at htype
        | some column =>
          obtain ⟨text, hparse⟩ := ColumnSpec.read_type hc hcolumn
          rw [hcolumn] at htype
          exact ColumnType.parse_ne_structured hparse nullable htype
      · dsimp only at htype
        rw [htype] at hv
        exact Value.readConstant_null_or_type hv
    · cases h

end RowQuery
