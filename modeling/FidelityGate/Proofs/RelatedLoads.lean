import FidelityGate.Load.Record
import Mathlib.Data.List.Forall2

/-!
# Loads that are related

Two ways of loading are compared on one value at a time.  Either both load it, and what they load is
related, or both fail with the same issues one by one, up to exceptions that are named.  Records and
lists are related if their parts are.
-/

namespace FidelityGate.Checked

variable {α β γ : Type}

/-- Two results of one load. -/
inductive Related (R : α → α → Prop) (E : Issue → Issue → Prop) : Checked α → Checked α → Prop where
  | ok {a b : α} : R a b → Related R E (.ok a) (.ok b)
  | bad {first second : List Issue} : List.Forall₂ (fun x y ↦ x = y ∨ E x y) first second →
      Related R E (.bad first) (.bad second)

def Never (_ _ : Issue) : Prop :=
  False

/-- What was loaded from each item of a list, in two ways. -/
inductive Itemwise (R : β → α → α → Prop) : List β → List α → List α → Prop where
  | nil : Itemwise R [] [] []
  | cons {item : β} {a b : α} {items : List β} {as bs : List α} : R item a b →
      Itemwise R items as bs → Itemwise R (item :: items) (a :: as) (b :: bs)

theorem Itemwise.map_eq {R : β → α → α → Prop} {items : List β} {as bs : List α} {f : α → γ}
    (h : Itemwise R items as bs) (hf : ∀ item ∈ items, ∀ a b, R item a b → f a = f b) :
    as.map f = bs.map f := by
  induction h with
  | nil => rfl
  | @cons item a b items as bs hab _ ih =>
      rw [List.map_cons, List.map_cons, hf item List.mem_cons_self a b hab,
        ih fun other hother ↦ hf other (List.mem_cons_of_mem item hother)]

namespace Related

variable {R : α → α → Prop} {S : β → β → Prop} {E E' : Issue → Issue → Prop}

theorem refl (x : Checked α) : Related Eq E x x := by
  cases x with
  | ok a => exact .ok rfl
  | bad issues => exact .bad (List.forall₂_same.mpr fun _ _ ↦ .inl rfl)

theorem imp {R' : α → α → Prop} {x y : Checked α} (hR : ∀ a b, R a b → R' a b)
    (hE : ∀ a b, E a b → E' a b) (h : Related R E x y) : Related R' E' x y := by
  cases h with
  | ok hab => exact .ok (hR _ _ hab)
  | bad hissues => exact .bad (hissues.imp fun _ _ ↦ Or.imp_right (hE _ _))

theorem map {f g : α → β} {x y : Checked α} (hfg : ∀ a b, R a b → S (f a) (g b))
    (h : Related R E x y) : Related S E (f <$> x) (g <$> y) := by
  cases h with
  | ok hab => exact .ok (hfg _ _ hab)
  | bad hissues => exact .bad hissues

theorem seq {f g : Checked (α → β)} {x y : Checked α}
    (hfg : Related (fun f g ↦ ∀ a b, R a b → S (f a) (g b)) E f g) (h : Related R E x y) :
    Related S E (f <*> x) (g <*> y) := by
  cases hfg with
  | ok hfg =>
      cases h with
      | ok hab => exact .ok (hfg _ _ hab)
      | bad hissues => exact .bad hissues
  | bad hfirst =>
      cases h with
      | ok hab => exact .bad hfirst
      | bad hsecond => exact .bad (List.rel_append hfirst hsecond)

theorem mapSame {f g : α → β} {x : Checked α} (hfg : ∀ a, S (f a) (g a)) :
    Related S E (f <$> x) (g <$> x) :=
  map (R := Eq) (fun a _ h ↦ h ▸ hfg a) (refl x)

theorem seqSame {f g : Checked (α → β)} {x : Checked α}
    (hfg : Related (fun f g ↦ ∀ a, S (f a) (g a)) E f g) : Related S E (f <*> x) (g <*> x) :=
  seq (R := Eq) (hfg.imp (fun _ _ h a _ hab ↦ hab ▸ h a) fun _ _ ↦ id) (refl x)

theorem under {x y : Checked α} {step : Step}
    (hE : ∀ a b, E a b → E' (a.under step) (b.under step)) (h : Related R E x y) :
    Related R E' (x.under step) (y.under step) := by
  cases h with
  | ok hab => exact .ok hab
  | bad hissues =>
      refine .bad ?_
      rw [List.forall₂_map_left_iff, List.forall₂_map_right_iff]
      exact hissues.imp fun a b ↦ Or.imp (congrArg _) (hE a b)

theorem each {Q : β → α → α → Prop} {load load' : β → Checked α} {items : List β} (position : Nat)
    (h : ∀ item ∈ items, Related (Q item) Never (load item) (load' item)) :
    Related (Itemwise Q items) Never (Checked.each load position items)
      (Checked.each load' position items) := by
  induction items generalizing position with
  | nil => exact .ok .nil
  | cons item rest ih =>
      have hitem : Related (Q item) Never ((load item).under (.index position))
          ((load' item).under (.index position)) :=
        (h item List.mem_cons_self).under fun _ _ ↦ False.elim
      have hrest := ih (position + 1) fun other hother ↦ h other (List.mem_cons_of_mem item hother)
      exact seq (map (fun _ _ hab _ _ hrest ↦ .cons hab hrest) hitem) hrest

theorem field {load load' : Value → Checked α} {default : α} {fields : List (String × Value)}
    {key : String} (hdefault : Value.lookup? key fields = none → R default default)
    (h : ∀ v, Value.lookup? key fields = some v →
      Related R E ((load v).under (.key key)) ((load' v).under (.key key))) :
    Related R E (Load.field load default fields key) (Load.field load' default fields key) := by
  unfold Load.field
  cases hv : Value.lookup? key fields with
  | none => exact .ok (hdefault hv)
  | some v => exact h v hv

end Related

end FidelityGate.Checked
