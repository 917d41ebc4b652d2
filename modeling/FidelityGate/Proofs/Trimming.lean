import FidelityGate.Text.Blank
import Mathlib.Algebra.GroupWithZero.Nat
import Mathlib.Data.List.Basic
import Mathlib.Data.List.DropRight
import Mathlib.Data.List.TakeWhile
import Mathlib.Tactic.Common

/-!
# Trimming

What is left of a text when its ends are trimmed.  A text within another one loses no more at its
ends than that one does: trimming both keeps the one within the other, as an unbroken part and as
a selection of characters alike.  What is put between two texts shields their inner ends: it
may spare blanks there that would have been trimmed away, and never costs any.
-/

namespace FidelityGate.Text

variable {p : Char → Bool} {cs ds : List Char}

/-! ## Parts of a text -/

theorem dropWhile_sublist_dropWhile (h : cs.Sublist ds) :
    (cs.dropWhile p).Sublist (ds.dropWhile p) := by
  induction h with
  | slnil => exact List.Sublist.refl _
  | @cons cs ds d h ih =>
      by_cases hd : p d = true
      · rwa [List.dropWhile_cons_of_pos hd]
      · rw [List.dropWhile_cons_of_neg hd]
        exact ((List.dropWhile_sublist p).trans h).cons d
  | @cons_cons cs ds d h ih =>
      by_cases hd : p d = true
      · rwa [List.dropWhile_cons_of_pos hd, List.dropWhile_cons_of_pos hd]
      · rw [List.dropWhile_cons_of_neg hd, List.dropWhile_cons_of_neg hd]
        exact h.cons_cons d

theorem trimBy_sublist_trimBy (h : cs.Sublist ds) : (trimBy p cs).Sublist (trimBy p ds) := by
  apply List.Sublist.reverse
  apply dropWhile_sublist_dropWhile
  exact (dropWhile_sublist_dropWhile h).reverse

theorem dropWhile_infix_dropWhile (h : cs <:+: ds) : cs.dropWhile p <:+: ds.dropWhile p := by
  obtain ⟨front, back, rfl⟩ := h
  have hback : cs.dropWhile p <:+: (cs ++ back).dropWhile p := by
    rw [List.dropWhile_append]
    split
    next hblank =>
      rw [List.isEmpty_iff.mp hblank]
      exact List.nil_infix
    next => exact (List.prefix_append _ _).isInfix
  rw [List.append_assoc, List.dropWhile_append]
  split
  · exact hback
  · have hwhole : cs <:+: front.dropWhile p ++ (cs ++ back) :=
      ⟨front.dropWhile p, back, List.append_assoc ..⟩
    exact (List.dropWhile_suffix p).isInfix.trans hwhole

theorem trimBy_infix_trimBy (h : cs <:+: ds) : trimBy p cs <:+: trimBy p ds := by
  apply List.reverse_infix.mpr
  apply dropWhile_infix_dropWhile
  exact List.reverse_infix.mpr (dropWhile_infix_dropWhile h)

theorem trimBy_infix (p : Char → Bool) (cs : List Char) : trimBy p cs <:+: cs := by
  have hprefix : trimBy p cs <+: cs.dropWhile p := List.rdropWhile_prefix p (cs.dropWhile p)
  exact hprefix.isInfix.trans (List.dropWhile_suffix p).isInfix

/-! ## The ends of a trimmed text -/

theorem head?_dropWhile {c : Char} (h : c ∈ (cs.dropWhile p).head?) : p c = false := by
  have hfirst := List.head?_dropWhile_not p cs
  rwa [Option.mem_def.mp h] at hfirst

theorem getLast?_trimBy {c : Char} (h : c ∈ (trimBy p cs).getLast?) : p c = false := by
  rw [trimBy, List.getLast?_reverse] at h
  exact head?_dropWhile h

theorem head?_trimBy {c : Char} (h : c ∈ (trimBy p cs).head?) : p c = false := by
  obtain ⟨back, hback⟩ : trimBy p cs <+: cs.dropWhile p := by
    rw [← List.reverse_suffix, trimBy, List.reverse_reverse]
    exact List.dropWhile_suffix p
  have hne : trimBy p cs ≠ [] := by
    rintro hnil
    simp [hnil] at h
  have hfirst : c ∈ (cs.dropWhile p).head? := by
    rwa [← hback, List.head?_append_of_ne_nil _ hne]
  exact head?_dropWhile hfirst

theorem dropWhile_eq_self (h : ∀ c ∈ cs.head?, p c = false) : cs.dropWhile p = cs := by
  cases cs with
  | nil => rfl
  | cons c rest =>
      have hc : p c = false := h c rfl
      exact List.dropWhile_cons_of_neg (by simp [hc])

/-- Only what ends in the class at neither end stays as it is. -/
theorem trimBy_eq_self_iff :
    trimBy p cs = cs ↔
      (∀ c ∈ cs.head?, p c = false) ∧ ∀ c ∈ cs.getLast?, p c = false := by
  constructor
  · intro h
    rw [← h]
    exact ⟨fun c ↦ head?_trimBy, fun c ↦ getLast?_trimBy⟩
  · rintro ⟨hfirst, hlast⟩
    rw [trimBy, dropWhile_eq_self hfirst, dropWhile_eq_self, List.reverse_reverse]
    rwa [List.head?_reverse]

theorem trimBy_trimBy (p : Char → Bool) (cs : List Char) : trimBy p (trimBy p cs) = trimBy p cs :=
  trimBy_eq_self_iff.mpr ⟨fun _ ↦ head?_trimBy, fun _ ↦ getLast?_trimBy⟩

theorem trim_trim (s : String) : trim (trim s) = trim s := by
  rw [← String.toList_inj, toList_trim, toList_trim, trimBy_trimBy]

theorem trimBy_append_append {middle : List Char} (hcs : trimBy p cs = cs) (hds : trimBy p ds = ds)
    (hcs_ne : cs ≠ []) (hds_ne : ds ≠ []) :
    trimBy p (cs ++ middle ++ ds) = cs ++ middle ++ ds := by
  rw [trimBy_eq_self_iff] at hcs hds ⊢
  rw [List.getLast?_append_of_ne_nil _ hds_ne, List.append_assoc,
    List.head?_append_of_ne_nil _ hcs_ne]
  exact ⟨hcs.1, hds.2⟩

theorem trimBy_concat {c : Char} (hc : p c = true) (cs : List Char) :
    trimBy p (cs ++ [c]) = trimBy p cs := by
  unfold trimBy
  rw [List.dropWhile_append]
  split
  next hblank => simp [List.isEmpty_iff.mp hblank, hc]
  next => simp [hc]

/-! ## Texts side by side -/

theorem rdropWhile_sublist_rdropWhile (h : cs.Sublist ds) :
    (cs.rdropWhile p).Sublist (ds.rdropWhile p) :=
  (dropWhile_sublist_dropWhile h.reverse).reverse

theorem dropWhile_append_sublist (cs ds : List Char) :
    ((cs ++ ds).dropWhile p).Sublist (cs.dropWhile p ++ ds) := by
  rw [List.dropWhile_append]
  split
  · exact (List.dropWhile_sublist p).trans (List.sublist_append_right _ _)
  · exact List.Sublist.refl _

theorem rdropWhile_append_sublist (cs ds : List Char) :
    ((cs ++ ds).rdropWhile p).Sublist (cs ++ ds.rdropWhile p) := by
  rw [List.rdropWhile, List.rdropWhile, List.reverse_append]
  have h := dropWhile_append_sublist (p := p) ds.reverse cs.reverse
  rw [← List.reverse_sublist, List.reverse_append, List.reverse_reverse] at h
  exact h

theorem trimBy_append_sublist (cs ds : List Char) :
    (trimBy p (cs ++ ds)).Sublist (cs.dropWhile p ++ ds.rdropWhile p) :=
  (rdropWhile_sublist_rdropWhile (dropWhile_append_sublist cs ds)).trans
    (rdropWhile_append_sublist _ ds)

theorem dropWhile_append_of_head? (h : ∀ c ∈ ds.head?, p c = false) (cs : List Char) :
    (cs ++ ds).dropWhile p = cs.dropWhile p ++ ds := by
  rw [List.dropWhile_append]
  split
  next hblank => rw [List.isEmpty_iff.mp hblank, dropWhile_eq_self h, List.nil_append]
  next => rfl

theorem rdropWhile_append_of_getLast? (h : ∀ c ∈ cs.getLast?, p c = false) (ds : List Char) :
    (cs ++ ds).rdropWhile p = cs ++ ds.rdropWhile p := by
  rw [← List.head?_reverse] at h
  rw [List.rdropWhile, List.reverse_append, dropWhile_append_of_head? h, List.reverse_append,
    List.reverse_reverse, List.rdropWhile]

/-- Around a text that is trimmed already only the outer ends are trimmed. -/
theorem trimBy_around {middle : List Char} (h : trimBy p middle = middle) (hne : middle ≠ [])
    (cs ds : List Char) :
    trimBy p (cs ++ middle ++ ds) = cs.dropWhile p ++ middle ++ ds.rdropWhile p := by
  obtain ⟨hfirst, hlast⟩ := trimBy_eq_self_iff.mp h
  have hhead : ∀ c ∈ (middle ++ ds).head?, p c = false := by
    rwa [List.head?_append_of_ne_nil _ hne]
  have hend : ∀ c ∈ (cs.dropWhile p ++ middle).getLast?, p c = false := by
    rwa [List.getLast?_append_of_ne_nil _ hne]
  calc trimBy p (cs ++ middle ++ ds) = ((cs ++ (middle ++ ds)).dropWhile p).rdropWhile p := by
        rw [List.append_assoc]
        rfl
    _ = (cs.dropWhile p ++ middle ++ ds).rdropWhile p := by
        rw [dropWhile_append_of_head? hhead, List.append_assoc]
    _ = cs.dropWhile p ++ middle ++ ds.rdropWhile p := rdropWhile_append_of_getLast? hend ds

/-- What is put between two texts makes them longer by what is left of it when it is trimmed. -/
theorem length_trimBy_insert (cs middle ds : List Char) :
    (trimBy p (cs ++ ds)).length + (trimBy p middle).length ≤
      (trimBy p (cs ++ middle ++ ds)).length := by
  rcases eq_or_ne (trimBy p middle) [] with hblank | hne
  · rw [hblank, List.length_nil, Nat.add_zero]
    have hsub : (cs ++ ds).Sublist (cs ++ middle ++ ds) :=
      (List.sublist_append_left cs middle).append (List.Sublist.refl ds)
    exact (trimBy_sublist_trimBy hsub).length_le
  · -- The blanks around the inserted text may save blanks at the ends of both others, never more.
    obtain ⟨front, back, hmiddle⟩ := trimBy_infix p middle
    have hwhole : cs ++ middle ++ ds = (cs ++ front) ++ trimBy p middle ++ (back ++ ds) := by
      conv_lhs => rw [← hmiddle]
      simp only [List.append_assoc]
    have hfront : (cs.dropWhile p).length ≤ ((cs ++ front).dropWhile p).length :=
      (dropWhile_sublist_dropWhile (List.sublist_append_left cs front)).length_le
    have hback : (ds.rdropWhile p).length ≤ ((back ++ ds).rdropWhile p).length :=
      (rdropWhile_sublist_rdropWhile (List.sublist_append_right back ds)).length_le
    have hboth := (trimBy_append_sublist (p := p) cs ds).length_le
    rw [hwhole, trimBy_around (trimBy_trimBy p middle) hne]
    simp only [List.length_append] at hboth ⊢
    omega

/-! ## Lines -/

/-- The texts as lines, with a line end behind each of them. -/
def terminated : List (List Char) → List Char
  | [] => []
  | t :: rest => t ++ '\n' :: terminated rest

theorem terminated_append (texts more : List (List Char)) :
    terminated (texts ++ more) = terminated texts ++ terminated more := by
  induction texts with
  | nil => rfl
  | cons t rest ih =>
      rw [List.cons_append, terminated, terminated, ih, List.append_assoc]
      rfl

/-- Lines put between others make the whole longer by what is left of each when it is trimmed. -/
theorem length_trimBy_terminated_insert (hp : p '\n' = true) (front more back : List (List Char)) :
    (trimBy p (terminated (front ++ back))).length +
        (more.map fun t ↦ (trimBy p t).length).sum ≤
      (trimBy p (terminated (front ++ more ++ back))).length := by
  induction more with
  | nil => simp
  | cons t rest ih =>
      have hline := length_trimBy_insert (p := p) (terminated front) (t ++ ['\n'])
        (terminated (rest ++ back))
      rw [trimBy_concat hp, ← terminated_append, ← List.append_assoc front] at hline
      have hwhole : terminated (front ++ (t :: rest) ++ back) =
          terminated front ++ (t ++ ['\n']) ++ terminated (rest ++ back) := by
        simp [terminated_append, terminated]
      rw [hwhole, List.map_cons, List.sum_cons]
      omega

theorem length_trimBy_terminated_fill (front back : List (List Char)) (t : List Char) :
    (trimBy p (terminated (front ++ [] :: back))).length + (trimBy p t).length ≤
      (trimBy p (terminated (front ++ t :: back))).length := by
  have hline := length_trimBy_insert (p := p) (terminated front) t ('\n' :: terminated back)
  simpa only [terminated_append, terminated, List.nil_append, List.append_assoc] using hline

theorem intercalate_concat {texts : List (List Char)} (h : texts ≠ []) :
    ['\n'].intercalate texts ++ ['\n'] = terminated texts := by
  induction texts with
  | nil => exact absurd rfl h
  | cons t rest ih =>
      cases rest with
      | nil => simp [terminated]
      | cons u rest =>
          rw [List.intercalate_cons_cons, List.append_assoc, ih (List.cons_ne_nil u rest),
            List.append_assoc]
          rfl

/-- Whether a line end stands behind the last line or not is lost in trimming. -/
theorem trimBy_intercalate (hp : p '\n' = true) (texts : List (List Char)) :
    trimBy p (['\n'].intercalate texts) = trimBy p (terminated texts) := by
  cases texts with
  | nil => rfl
  | cons t rest => rw [← intercalate_concat (List.cons_ne_nil t rest), trimBy_concat hp]

theorem infix_terminated {t : List Char} {texts : List (List Char)} (h : t ∈ texts) :
    t <:+: terminated texts := by
  induction texts with
  | nil => cases h
  | cons u rest ih =>
      rcases List.mem_cons.mp h with rfl | hrest
      · exact (List.prefix_append t _).isInfix
      · exact (ih hrest).trans ⟨u ++ ['\n'], [], by simp [terminated]⟩

theorem trimBy_sublist (p : Char → Bool) (cs : List Char) : (trimBy p cs).Sublist cs := by
  apply List.reverse_sublist.mp
  rw [trimBy, List.reverse_reverse]
  exact (List.dropWhile_sublist p).trans (List.dropWhile_sublist p).reverse

/-- The lines less those that are blank, each of them trimmed. -/
theorem terminated_trimmed_sublist (p : Char → Bool) (texts : List (List Char)) :
    (terminated ((texts.map (trimBy p)).filter (· ≠ []))).Sublist (terminated texts) := by
  induction texts with
  | nil => exact List.Sublist.refl _
  | cons t rest ih =>
      rw [List.map_cons, List.filter_cons]
      split
      · exact (trimBy_sublist p t).append (ih.cons_cons '\n')
      · exact (ih.cons '\n').trans (List.sublist_append_right t _)

/-- Trimmed lines, none of them blank, joined by line ends. -/
theorem trimBy_intercalate_of_trimmed {texts : List (List Char)} (hne : texts ≠ [])
    (h : ∀ t ∈ texts, t ≠ [] ∧ trimBy p t = t) :
    ['\n'].intercalate texts ≠ [] ∧
      trimBy p (['\n'].intercalate texts) = ['\n'].intercalate texts := by
  induction texts with
  | nil => exact absurd rfl hne
  | cons t rest ih =>
      obtain ⟨ht_ne, ht⟩ := h t List.mem_cons_self
      cases rest with
      | nil =>
          rw [List.intercalate_singleton]
          exact ⟨ht_ne, ht⟩
      | cons u rest =>
          obtain ⟨hrest_ne, hrest⟩ := ih (List.cons_ne_nil u rest)
            fun v hv ↦ h v (List.mem_cons_of_mem t hv)
          rw [List.intercalate_cons_cons]
          exact ⟨by simp [ht_ne], trimBy_append_append ht hrest ht_ne hrest_ne⟩

/-- Such lines only lose the last line end. -/
theorem length_trimBy_terminated {texts : List (List Char)} (hp : p '\n' = true)
    (h : ∀ t ∈ texts, t ≠ [] ∧ trimBy p t = t) :
    (trimBy p (terminated texts)).length = (terminated texts).length - 1 := by
  cases texts with
  | nil => rfl
  | cons t rest =>
      have hne := List.cons_ne_nil t rest
      rw [← trimBy_intercalate hp, (trimBy_intercalate_of_trimmed hne h).2,
        ← intercalate_concat hne]
      simp

theorem length_terminated (texts : List (List Char)) :
    (terminated texts).length = (texts.map List.length).sum + texts.length := by
  induction texts with
  | nil => rfl
  | cons t rest ih =>
      rw [terminated, List.length_append, List.length_cons, ih, List.map_cons, List.sum_cons,
        List.length_cons]
      omega

theorem intercalate_append_singleton (texts : List (List Char)) (last : List Char) :
    ['\n'].intercalate (texts ++ [last]) = terminated texts ++ last := by
  induction texts with
  | nil => exact List.intercalate_singleton
  | cons t rest ih =>
      rw [List.cons_append, List.intercalate_cons_of_ne_nil (by simp), ih, terminated]
      simp

/-- The length of lines with a line end between any two of them. -/
theorem length_intercalate (texts : List (List Char)) :
    (['\n'].intercalate texts).length = (texts.map List.length).sum + (texts.length - 1) := by
  rcases List.eq_nil_or_concat texts with rfl | ⟨front, last, rfl⟩
  · rfl
  · rw [List.concat_eq_append, intercalate_append_singleton, List.length_append,
      length_terminated, List.map_append, List.sum_append, List.length_append]
    simp
    omega

/-- Trimmed lines behind any others may change places without any change of the length. -/
theorem length_trimBy_terminated_congr (hp : p '\n' = true) (front : List (List Char))
    {shown shown' : List (List Char)} (h : ∀ t ∈ shown, t ≠ [] ∧ trimBy p t = t)
    (hperm : shown.Perm shown') :
    (trimBy p (terminated (front ++ shown))).length =
      (trimBy p (terminated (front ++ shown'))).length := by
  rcases eq_or_ne shown [] with rfl | hne
  · rw [hperm.nil_eq]
  · have hlength {texts : List (List Char)} (hsame : shown.Perm texts) :
        (trimBy p (terminated (front ++ texts))).length =
          ((terminated front).dropWhile p).length + (['\n'].intercalate shown).length := by
      have htexts : texts ≠ [] := fun hnil ↦ hne (hnil ▸ hsame).eq_nil
      obtain ⟨hmiddle, htrimmed⟩ := trimBy_intercalate_of_trimmed htexts
        fun t ht ↦ h t (hsame.mem_iff.mpr ht)
      have hend : (['\n'] : List Char).rdropWhile p = [] := by simp [List.rdropWhile, hp]
      rw [terminated_append, ← intercalate_concat htexts, ← List.append_assoc,
        trimBy_around htrimmed hmiddle, hend, List.append_nil, List.length_append,
        length_intercalate, length_intercalate, (hsame.map List.length).sum_nat, hsame.length_eq]
    rw [hlength (.refl shown), hlength hperm]

theorem forall_mem_head?_line {t : List Char} (hp : p '\n' = true) (cs : List Char) :
    (∀ c ∈ (t ++ '\n' :: cs).head?, p c = false) ↔ ∃ c ∈ t.head?, p c = false := by
  cases t <;> simp [hp]

/-- Two lines or more stay as they are only if the first one begins and the last one ends outside
the class.  An empty line counts as its line end here. -/
theorem trimBy_intercalate_eq_self_iff (hp : p '\n' = true) (first last : List Char)
    (middle : List (List Char)) :
    trimBy p (['\n'].intercalate (first :: (middle ++ [last]))) =
        ['\n'].intercalate (first :: (middle ++ [last])) ↔
      (∃ c ∈ first.head?, p c = false) ∧ ∃ c ∈ last.getLast?, p c = false := by
  have hfront : ['\n'].intercalate (first :: (middle ++ [last])) =
      first ++ '\n' :: (terminated middle ++ last) := by
    rw [← List.cons_append, intercalate_append_singleton, terminated, List.append_assoc]
    rfl
  have hback : ['\n'].intercalate (first :: (middle ++ [last])) =
      ['\n'].intercalate (first :: middle) ++ '\n' :: last := by
    rw [← List.cons_append, intercalate_append_singleton,
      ← intercalate_concat (List.cons_ne_nil first middle), List.append_assoc]
    rfl
  rw [trimBy_eq_self_iff]
  apply and_congr
  · rw [hfront, forall_mem_head?_line hp]
  · rw [hback, ← List.head?_reverse, ← List.head?_reverse, List.reverse_append, List.reverse_cons,
      List.append_assoc]
    exact forall_mem_head?_line hp _

end FidelityGate.Text
