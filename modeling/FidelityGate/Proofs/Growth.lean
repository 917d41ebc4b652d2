import FidelityGate.Proofs.Replacement
import FidelityGate.Proofs.Visibility
import Mathlib.Logic.Relation

/-!
# Growth

A pack that something is added to never renders shorter.  Trimming the whole is what makes this
less than plain: an addition may turn blanks inside the rendering into blanks at its end, and back.
It is a matter of lines only, so every kind of addition is reduced to lines put between others, or
to an empty line that is filled.
-/

namespace FidelityGate

/-- The length of texts that are trimmed one by one. -/
def Text.netLength (texts : List String) : Nat :=
  (texts.map fun text ↦ (Text.trim text).length).sum

namespace Pack

/-- Of what is shown of texts nothing more can be trimmed. -/
theorem netLength_visible (texts : List String) :
    Text.netLength (visible texts) = Text.netLength texts := by
  induction texts with
  | nil => rfl
  | cons text rest ih =>
      by_cases hblank : Text.trim text = ""
      · simpa [visible, Text.netLength, hblank] using ih
      · simpa [visible, Text.netLength, hblank, Text.trim_trim] using ih

section

variable {before after : Pack} {front back : List String}

theorem length_rendering_insert {more : List String} (hbefore : before.parts = front ++ back)
    (hafter : after.parts = front ++ more ++ back) :
    before.rendering.length + Text.netLength more ≤ after.rendering.length := by
  have hlines := Text.length_trimBy_terminated_insert (p := Text.isBlank) (by decide)
    (front.map String.toList) (more.map String.toList) (back.map String.toList)
  have hnet : Text.netLength more =
      ((more.map String.toList).map fun t ↦ (Text.trimBy Text.isBlank t).length).sum := by
    simp [Text.netLength, Function.comp_def, Text.trim]
  rw [← String.length_toList, ← String.length_toList, toList_rendering, toList_rendering, hbefore,
    hafter, hnet]
  simpa only [List.map_append] using hlines

theorem length_rendering_fill (front : List String) {text : String}
    (hbefore : before.parts = front ++ "" :: back)
    (hafter : after.parts = front ++ Text.trim text :: back) :
    before.rendering.length + Text.netLength [text] ≤ after.rendering.length := by
  have hlines := Text.length_trimBy_terminated_fill (p := Text.isBlank) (front.map String.toList)
    (back.map String.toList) (Text.trim text).toList
  have hnet : Text.netLength [text] =
      (Text.trimBy Text.isBlank (Text.trim text).toList).length := by
    rw [← Text.toList_trim, Text.trim_trim, String.length_toList]
    simp [Text.netLength]
  rw [← String.length_toList, ← String.length_toList, toList_rendering, toList_rendering, hbefore,
    hafter, hnet]
  simpa only [List.map_append, List.map_cons, String.toList_empty] using hlines

/-- Texts that are shown only where they are not blank add as much as if all were shown. -/
theorem length_rendering_remark {texts : List String} (hheaders : after.headers = before.headers)
    (hconstraints : after.constraints = before.constraints)
    (hbefore : before.remarks = front ++ back) (hafter : after.remarks = front ++ texts ++ back) :
    before.rendering.length + Text.netLength texts ≤ after.rendering.length := by
  have hbefore' : before.parts =
      (before.headers ++ before.constraints ++ visible front) ++ visible back := by
    rw [parts, hbefore, visible_append]
    simp only [List.append_assoc]
  have hafter' : after.parts =
      (before.headers ++ before.constraints ++ visible front) ++ visible texts ++ visible back := by
    rw [parts, hafter, hheaders, hconstraints, visible_append, visible_append]
    simp only [List.append_assoc]
  rw [← netLength_visible]
  exact length_rendering_insert hbefore' hafter'

end

/-- The second pack is the first one with an item more in one of its lists, or with a blank header
filled.  The texts are those that this adds to what is shown. -/
inductive Insertion (pack : Pack) : List String → Pack → Prop where
  | constraint (front back : List String) (text : String) (h : pack.constraints = front ++ back) :
      Insertion pack [text] { pack with constraints := front ++ text :: back }
  | turn (front back : List Turn) (turn : Turn) (h : pack.dialogue = front ++ back) :
      Insertion pack [turn.userText, turn.assistantText]
        { pack with dialogue := front ++ turn :: back }
  | evidence (front back : List Evidence) (item : Evidence) (h : pack.evidence = front ++ back) :
      Insertion pack [item.summary] { pack with evidence := front ++ item :: back }
  | todo (front back : List Memory) (item : Memory) (h : pack.todos = front ++ back) :
      Insertion pack [item.content] { pack with todos := front ++ item :: back }
  | memory (front back : List Memory) (item : Memory) (h : pack.memories = front ++ back) :
      Insertion pack [item.content] { pack with memories := front ++ item :: back }
  | contract (text : String) (h : Text.trim pack.contract = "") :
      Insertion pack [text] { pack with contract := text }
  | objective (text : String) (h : Text.trim pack.objective = "") :
      Insertion pack [text] { pack with objective := text }
  | snapshot (text : String) (h : Text.trim pack.snapshot = "") :
      Insertion pack [text] { pack with snapshot := text }

def exchanges (turns : List Turn) : List String :=
  turns.flatMap fun turn ↦ [turn.userText, turn.assistantText]

theorem remarks_eq (pack : Pack) :
    pack.remarks = exchanges pack.dialogue ++ pack.evidence.map (·.summary) ++
      pack.todos.map (·.content) ++ pack.memories.map (·.content) := rfl

theorem parts_eq (pack : Pack) :
    pack.parts = Text.trim pack.contract :: Text.trim pack.objective :: Text.trim pack.snapshot ::
      (pack.constraints ++ visible pack.remarks) := rfl

namespace Insertion

variable {before after : Pack} {texts : List String}

theorem length_le (h : Insertion before texts after) :
    before.rendering.length + Text.netLength texts ≤ after.rendering.length := by
  cases h with
  | constraint front back text h =>
      have hbefore : before.parts =
          (before.headers ++ front) ++ (back ++ visible before.remarks) := by simp [parts, h]
      have hafter : parts { before with constraints := front ++ text :: back } =
          (before.headers ++ front) ++ [text] ++ (back ++ visible before.remarks) := by
        simp [parts, headers, remarks]
      exact length_rendering_insert hbefore hafter
  | turn front back turn h =>
      let behind := before.evidence.map (·.summary) ++ before.todos.map (·.content) ++
        before.memories.map (·.content)
      have hbefore : before.remarks = exchanges front ++ (exchanges back ++ behind) := by
        simp [remarks_eq, exchanges, behind, h]
      have hafter : remarks { before with dialogue := front ++ turn :: back } =
          exchanges front ++ [turn.userText, turn.assistantText] ++ (exchanges back ++ behind) := by
        simp [remarks_eq, exchanges, behind]
      exact length_rendering_remark rfl rfl hbefore hafter
  | evidence front back item h =>
      let behind := before.todos.map (·.content) ++ before.memories.map (·.content)
      have hbefore : before.remarks = (exchanges before.dialogue ++ front.map (·.summary)) ++
          (back.map (·.summary) ++ behind) := by
        simp [remarks_eq, behind, h]
      have hafter : remarks { before with evidence := front ++ item :: back } =
          (exchanges before.dialogue ++ front.map (·.summary)) ++ [item.summary] ++
            (back.map (·.summary) ++ behind) := by
        simp [remarks_eq, behind]
      exact length_rendering_remark rfl rfl hbefore hafter
  | todo front back item h =>
      let ahead := exchanges before.dialogue ++ before.evidence.map (·.summary)
      have hbefore : before.remarks = (ahead ++ front.map (·.content)) ++
          (back.map (·.content) ++ before.memories.map (·.content)) := by
        simp [remarks_eq, ahead, h]
      have hafter : remarks { before with todos := front ++ item :: back } =
          (ahead ++ front.map (·.content)) ++ [item.content] ++
            (back.map (·.content) ++ before.memories.map (·.content)) := by
        simp [remarks_eq, ahead]
      exact length_rendering_remark rfl rfl hbefore hafter
  | memory front back item h =>
      let ahead := exchanges before.dialogue ++ before.evidence.map (·.summary) ++
        before.todos.map (·.content)
      have hbefore : before.remarks = (ahead ++ front.map (·.content)) ++
          back.map (·.content) := by
        simp [remarks_eq, ahead, h]
      have hafter : remarks { before with memories := front ++ item :: back } =
          (ahead ++ front.map (·.content)) ++ [item.content] ++ back.map (·.content) := by
        simp [remarks_eq, ahead]
      exact length_rendering_remark rfl rfl hbefore hafter
  -- A blank header is rendered as an empty line, which stands at its place from the start.
  | contract text h =>
      have hbefore := before.parts_eq
      rw [h] at hbefore
      exact length_rendering_fill [] hbefore rfl
  | objective text h =>
      have hbefore := before.parts_eq
      rw [h] at hbefore
      exact length_rendering_fill [_] hbefore rfl
  | snapshot text h =>
      have hbefore := before.parts_eq
      rw [h] at hbefore
      exact length_rendering_fill [_, _] hbefore rfl

theorem length_lt (h : Insertion before texts after) {text : String} (htext : text ∈ texts)
    (hvisible : Text.trim text ≠ "") : before.rendering.length < after.rendering.length := by
  have hlength := h.length_le
  have hpositive : 0 < (Text.trim text).length := by
    rw [← String.length_toList, List.length_pos_iff]
    simpa using hvisible
  have hnet : (Text.trim text).length ≤ Text.netLength texts :=
    List.single_le_sum (fun _ _ ↦ Nat.zero_le _) _ (List.mem_map_of_mem htext)
  omega

end Insertion

/-- The second pack comes from the first one by insertions, however many. -/
def Grows : Pack → Pack → Prop :=
  Relation.ReflTransGen fun before after ↦ ∃ texts, Insertion before texts after

theorem Grows.length_le {first last : Pack} (h : Grows first last) :
    first.rendering.length ≤ last.rendering.length := by
  induction h with
  | refl => exact Nat.le_refl _
  | @tail middle last _ hstep ih =>
      obtain ⟨texts, hinsertion⟩ := hstep
      have hlength := hinsertion.length_le
      omega

end Pack

theorem not_isPassed_of_length_le {before after : Pack} {request : Requested} {verdict : Verdict}
    (hlength : before.rendering.length ≤ after.rendering.length)
    (h : judge (.pack before) (.pack after) request = .ok verdict) :
    verdict.isPassed = false := by
  obtain ⟨required, saved, hratio, hsaved, rfl⟩ := judge_pack_eq_ok_iff.mp h
  rw [← Bool.not_eq_true]
  intro hpassed
  have hreplaceable : Replaceable before after request required := ⟨_, h, hpassed, rfl⟩
  exact Nat.not_lt_of_le hlength hreplaceable.length_lt

/-- Every insertion is seen in the length, and no row of them makes a pack that may be taken for a
shorter one. -/
theorem growth_never_passes :
    (∀ before texts after, Pack.Insertion before texts after →
      before.rendering.length + Text.netLength texts ≤ after.rendering.length ∧
      ((∃ text ∈ texts, Text.trim text ≠ "") →
        before.rendering.length < after.rendering.length)) ∧
    ∀ first last, Pack.Grows first last →
      first.rendering.length ≤ last.rendering.length ∧
      ∀ request verdict, judge (.pack first) (.pack last) request = .ok verdict →
        verdict.isPassed = false := by
  constructor
  · intro before texts after hinsertion
    refine ⟨hinsertion.length_le, ?_⟩
    rintro ⟨text, htext, hvisible⟩
    exact hinsertion.length_lt htext hvisible
  · intro first last hgrows
    refine ⟨hgrows.length_le, ?_⟩
    intro request verdict hjudge
    exact not_isPassed_of_length_le hgrows.length_le hjudge

/-- With a todo put to it, the second constraint of this draft is no longer trimmed away. -/
theorem draft_growth_never_passes :
    let before : Pack := { constraints := ["keep tests", " "] }
    let todo : Memory := { content := " more tests " }
    let after : Pack := { constraints := ["keep tests", " "], todos := [todo] }
    Pack.Insertion before [todo.content] after ∧
      before.rendering.length = 10 ∧ Text.netLength [todo.content] = 10 ∧
      after.rendering.length = 23 ∧ before.rendering.length < after.rendering.length ∧
      ∃ verdict, judge (.pack before) (.pack after) .absent = .ok verdict ∧
        verdict.isPassed = false := by
  intro before todo after
  have hinsertion : Pack.Insertion before [todo.content] after := .todo [] [] todo rfl
  have hgrows : Pack.Grows before after := .single ⟨_, hinsertion⟩
  obtain ⟨hinserts, hnever⟩ := growth_never_passes
  obtain ⟨-, hlonger⟩ := hinserts before [todo.content] after hinsertion
  obtain ⟨verdict, hjudge, -⟩ := Except.exists_of_toOption_map
    (x := judge (.pack before) (.pack after) .absent) (f := fun _ ↦ ()) (b := ())
    (by decide +kernel)
  obtain ⟨-, hfails⟩ := hnever before after hgrows
  have hvisible : Text.trim todo.content ≠ "" := by decide +kernel
  exact ⟨hinsertion, by decide +kernel, by decide +kernel, by decide +kernel,
    hlonger ⟨_, List.mem_singleton_self _, hvisible⟩, verdict, hjudge,
    hfails .absent verdict hjudge⟩

end FidelityGate
