import RowQuery.Proofs.Expr.Normalizing
import RowQuery.Proofs.Registry.Spelling

/-!
Steps that ask a registry for properties and do not fail. A property is spelled
by the registry that gives it out as by every later one, so what is said of the
result can be said in the spelling of a registry at the end of a command. Steps
in a row put their requests in a row.
-/

namespace RowQuery

namespace Registry

variable {t : Registry} {name : String} {type : ColumnType}

theorem callAll_append (r : Registry) (requests more : List (String × ColumnType)) :
    (r.callAll (requests ++ more)).2 = ((r.callAll requests).2.callAll more).2 := by
  induction requests generalizing r with
  | nil => rfl
  | cons request rest ih => exact ih _

/-- The property that answers a request has the spelling that later registries give. -/
theorem property_name {r : Registry} (hext : (r.property name type).2.Extends t) :
    (r.property name type).1.name = t.spelling name type :=
  (spelling_of_property? (property?_mono hext (r.property?_property name type))).symm

theorem property_columnType (r : Registry) (name : String) (type : ColumnType) :
    (r.property name type).1.columnType = type :=
  (property?_key (r.property?_property name type)).1

end Registry

namespace Registering

variable {ε α β : Type} {requests more : List (String × ColumnType)}
  {P : Spelling → α → Prop} {Q : Spelling → β → Prop} {R : Spelling → List α → Prop}

/-- The step serves requests and gives what has a property in the spelling of every later
registry. -/
def Gives (requests : List (String × ColumnType)) (P : Spelling → α → Prop)
    (x : Registering ε α) : Prop :=
  ∀ r, ∃ a, x r = (.ok a, (r.callAll requests).2) ∧
    ∀ t, (r.callAll requests).2.Extends t → P t.spelling a

theorem Gives.mono {x : Registering ε α} {P' : Spelling → α → Prop}
    (hx : Gives requests P x) (h : ∀ spelled a, P spelled a → P' spelled a) :
    Gives requests P' x := by
  intro r
  obtain ⟨a, hxr, ha⟩ := hx r
  exact ⟨a, hxr, fun t ht => h _ a (ha t ht)⟩

theorem gives_ok {a : α} (h : ∀ spelled, P spelled a) :
    Gives [] P (pureStep (.ok a) : Registering ε α) :=
  fun _ => ⟨a, rfl, fun t _ => h t.spelling⟩

/-- What follows a step may rely on what the step gives, in its own spelling: the registry at the
end of the first step is one that its result can be spelled by. -/
theorem Gives.bind {x : Registering ε α} {f : α → Registering ε β} (hx : Gives requests P x)
    (hf : ∀ spelled a, P spelled a →
      Gives more (fun spelled b => P spelled a → Q spelled b) (f a)) :
    Gives (requests ++ more) Q (x >>= f) := by
  intro r
  obtain ⟨a, hxr, ha⟩ := hx r
  have hhere := ha _ (Registry.Extends.refl _)
  obtain ⟨b, hfa, hb⟩ := hf _ a hhere (r.callAll requests).2
  rw [Registry.callAll_append]
  refine ⟨b, ?_, fun t ht => hb t ht (ha t ((Registry.extends_callAll _ _).trans ht))⟩
  rw [bind_apply, hxr]
  exact hfa

/-- A last step that asks for nothing. -/
theorem Gives.andThen {x : Registering ε α} {f : α → Registering ε β} (hx : Gives requests P x)
    (hf : ∀ spelled a, P spelled a →
      Gives [] (fun spelled b => P spelled a → Q spelled b) (f a)) :
    Gives requests Q (x >>= f) := by
  have h := hx.bind hf
  rwa [List.append_nil] at h

theorem Gives.map {x : Registering ε α} {f : α → β} (hx : Gives requests P x)
    (h : ∀ spelled a, P spelled a → Q spelled (f a)) :
    Gives requests Q (do let a ← x; return f a) :=
  hx.andThen fun _ a _ => gives_ok fun spelled ha => h spelled a ha

/-- A first step that asks for nothing. -/
theorem gives_bind_ok {a : α} {f : α → Registering ε β} (h : Gives requests Q (f a)) :
    Gives requests Q (pureStep (.ok a) >>= f) := by
  have hfirst : Gives [] (fun _ b => b = a) (pureStep (.ok a) : Registering ε α) :=
    gives_ok fun _ => rfl
  refine hfirst.bind fun _ b hb => ?_
  subst hb
  exact h.mono fun _ _ hQ _ => hQ

/-- One more element in front of a list. -/
theorem Gives.cons {x : Registering ε α} {xs : Registering ε (List α)} (hx : Gives requests P x)
    (hxs : Gives more R xs) :
    Gives (requests ++ more) (fun spelled bs => ∃ a as, bs = a :: as ∧ P spelled a ∧ R spelled as)
      (do let a ← x; let as ← xs; return a :: as) :=
  hx.bind fun _ a _ => hxs.map fun _ as has ha => ⟨a, as, rfl, ha, has⟩

theorem gives_property (name : String) (type : ColumnType) :
    Gives [(name, type)]
      (fun spelled p => p.name = spelled name type ∧ p.columnType = type)
      (property name type : Registering ε Property) :=
  fun r => ⟨(r.property name type).1, rfl, fun _ ht =>
    ⟨Registry.property_name ht, r.property_columnType name type⟩⟩

end Registering

end RowQuery
