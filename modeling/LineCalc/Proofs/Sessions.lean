import LineCalc.Session
import Mathlib.Data.List.Forall2

/-!
# The course of a session

A session over lines answers every line before the first one that says to quit,
each with the text of its value or of its error, and nothing else. It counts these
lines, reads once more than it answers, and reports the end of the input exactly if
no line says to quit. What it does with a line does not depend on the lines before
it, apart from the number of them.

## Implementation notes

A session is described from the middle on, with the number of lines answered before,
so that each line of the input is one step of the description.
-/

namespace LineCalc

open Text

/-- The events of reading and evaluating a line. -/
inductive Event.OfLine : Event → Prop
  | tokenized (characters tokens : Nat) : OfLine (.tokenized characters tokens)
  | definitionRead (name : String) : OfLine (.definitionRead name)
  | evaluating (definitions : Nat) (policy : DivisionPolicy) :
      OfLine (.evaluating definitions policy)
  | shadowed (name : String) : OfLine (.shadowed name)

namespace Line

theorem ofLine_tokenEvents (rule : WordRule) (source : String) :
    ∀ e ∈ tokenEvents rule source, e.OfLine := by
  unfold tokenEvents
  split
  · simp
  · exact List.forall_mem_singleton.mpr (.tokenized _ _)

theorem ofLine_programEvents (rule : WordRule) (source : String) :
    ∀ e ∈ programEvents rule source, e.OfLine := by
  refine List.forall_mem_append.mpr ⟨ofLine_tokenEvents rule source, ?_⟩
  split
  · simp
  · exact List.forall_mem_map.mpr fun d _ => .definitionRead d.name

theorem ofLine_events (settings : Settings) (source : String) :
    ∀ e ∈ events settings source, e.OfLine := by
  refine List.forall_mem_append.mpr ⟨ofLine_programEvents _ source, ?_⟩
  split
  · simp
  · refine List.forall_mem_cons.mpr ⟨.evaluating _ _, ?_⟩
    exact List.forall_mem_map.mpr fun name _ => .shadowed name

end Line

namespace Session

variable {settings : Settings} {start : Nat} {raw : String} {lines rest : List String}
  {t : Transcript}

/-- The line ends a session. -/
def Quits (raw : String) : Prop := strip raw = quitLine

instance : DecidablePred Quits := fun raw => inferInstanceAs (Decidable (strip raw = quitLine))

/-- The lines that a session answers: those before the first one that ends it. -/
def answered (lines : List String) : List String := lines.takeWhile fun raw => ¬ Quits raw

/-- The text is that of the value of the line without the blanks around it, or that
of the error it ends with. -/
inductive Answers (settings : Settings) (raw : String) : (text : String) → Prop
  | value {x : Float} (h : Line.evaluate settings (strip raw) = .ok x) :
      Answers settings raw (Decimal.text x)
  | failure {d : Diagnostic} (h : Line.evaluate settings (strip raw) = .error d) :
      Answers settings raw d.text

theorem answers_answer (settings : Settings) (raw : String) :
    Answers settings raw (answer settings (strip raw)) := by
  unfold answer
  split
  · next x h => exact .value h
  · next d h => exact .failure h

/-- A line has one answer, whatever session it belongs to. -/
theorem Answers.eq_answer {text : String} (h : Answers settings raw text) :
    text = answer settings (strip raw) := by
  cases h with
  | value h => simp only [answer, h]
  | failure h => simp only [answer, h]

theorem inputEnded_not_mem_answerEvents (settings : Settings) (line : String) (n : Nat) :
    .inputEnded n ∉ answerEvents settings line := by
  rw [answerEvents, List.mem_append]
  rintro (h | h)
  · cases Line.ofLine_events settings line _ h
  · split at h <;> simp at h

/-- What a session does with the lines that are left after it has answered some. -/
structure Course (settings : Settings) (start : Nat) (lines : List String) (t : Transcript) :
    Prop where
  /-- There is one text for each line that is answered, in order, and one more read. -/
  texts : ∃ texts, List.Forall₂ (Answers settings) (answered lines) texts ∧
    t.reads = texts.map some ++ [none]
  count_eq : t.count = start + (answered lines).length
  interrupted : t.interrupted = false
  inputEnded_iff : ∀ n, .inputEnded n ∈ t.events ↔ n = t.count ∧ ∀ raw ∈ lines, ¬ Quits raw

namespace Course

theorem finish (settings : Settings) (start : Nat) :
    Course settings start [] ⟨[none], start, false, [.inputEnded start]⟩ where
  texts := ⟨[], .nil, rfl⟩
  count_eq := rfl
  interrupted := rfl
  inputEnded_iff := by simp

theorem quit (h : Quits raw) : Course settings start (raw :: rest) ⟨[none], start, false, []⟩ := by
  have hanswered : answered (raw :: rest) = [] := by simp [answered, h]
  exact
    { texts := ⟨[], by rw [hanswered]; exact .nil, rfl⟩
      count_eq := by rw [hanswered]; rfl
      interrupted := rfl
      inputEnded_iff := by simp [h] }

theorem answer (hraw : ¬ Quits raw) (h : Course settings (start + 1) rest t) :
    Course settings start (raw :: rest)
      { t with
        reads := some (Session.answer settings (strip raw)) :: t.reads
        events := answerEvents settings (strip raw) ++ t.events } := by
  have hanswered : answered (raw :: rest) = raw :: answered rest := by simp [answered, hraw]
  obtain ⟨texts, htexts, hreads⟩ := h.texts
  refine ⟨⟨Session.answer settings (strip raw) :: texts, ?_, ?_⟩, ?_, h.interrupted, ?_⟩
  · rw [hanswered]
    exact .cons (answers_answer settings raw) htexts
  · simp only [hreads, List.map_cons, List.cons_append]
  · simp only [h.count_eq, hanswered, List.length_cons]
    omega
  · intro n
    simp only [List.mem_append, inputEnded_not_mem_answerEvents, false_or, h.inputEnded_iff,
      List.forall_mem_cons, hraw, not_false_eq_true, true_and]

end Course

theorem course_resume (settings : Settings) (start : Nat) (lines : List String) :
    Course settings start lines (resume settings .endOfInput start lines) := by
  induction lines generalizing start with
  | nil => exact .finish settings start
  | cons raw rest ih =>
      by_cases hquit : Quits raw
      · simp only [resume, if_pos (show strip raw = quitLine from hquit)]
        exact .quit hquit
      · simp only [resume, if_neg (show ¬ strip raw = quitLine from hquit)]
        exact .answer hquit (ih (start + 1))

/-- The answer to a line that is answered is found at the place of the line. -/
theorem Course.reads_eq (h : Course settings 0 lines t) {i : Nat} (hraw : lines[i]? = some raw)
    (hi : i < t.count) : t.reads[i]? = some (some (Session.answer settings (strip raw))) := by
  obtain ⟨texts, htexts, hreads⟩ := h.texts
  obtain ⟨after, hlines⟩ : answered lines <+: lines := List.takeWhile_prefix _
  have htext : texts = (answered lines).map fun raw => Session.answer settings (strip raw) := by
    have hmap := List.forall₂_map_left_iff.mpr (htexts.imp fun _ _ h => h.eq_answer.symm)
    rw [List.forall₂_eq_eq_eq] at hmap
    exact hmap.symm
  rw [h.count_eq, Nat.zero_add] at hi
  rw [← hlines, List.getElem?_append_left hi] at hraw
  have hlength : i < (texts.map some).length := by rwa [htext, List.length_map, List.length_map]
  rw [hreads, List.getElem?_append_left hlength, htext, List.map_map, List.getElem?_map, hraw]
  rfl

/-- A session over lines that are followed by the end of the input answers each line
before the first one that says to quit, and the answer to a line is the same wherever
it stands in whichever session. -/
theorem run_answers_each_line (settings : Settings) (lines : List String) :
    Course settings 0 lines (run settings .endOfInput lines) ∧
    (run settings .endOfInput lines).reads.length = (run settings .endOfInput lines).count + 1 ∧
    ∀ (others : List String) (i j : Nat) (raw : String),
      lines[i]? = some raw → others[j]? = some raw →
      i < (run settings .endOfInput lines).count → j < (run settings .endOfInput others).count →
      ∃ text, (run settings .endOfInput lines).reads[i]? = some (some text) ∧
        (run settings .endOfInput others).reads[j]? = some (some text) := by
  have hcourse := course_resume settings 0
  refine ⟨hcourse lines, ?_, ?_⟩
  · obtain ⟨texts, htexts, hreads⟩ := (hcourse lines).texts
    rw [run, hreads, (hcourse lines).count_eq, htexts.length_eq]
    simp
  · intro others i j raw hi hj hlines hothers
    exact ⟨_, (hcourse lines).reads_eq hi hlines, (hcourse others).reads_eq hj hothers⟩

/-- Behind a line that binds `x`, the line `x` is answered as it is alone. -/
theorem run_answers_each_line_unbound :
    ∃ text,
      (run .standard .endOfInput ["def x = 2; x", "x"]).reads[1]? = some (some text) ∧
      (run .standard .endOfInput ["x", " quit ", "1"]).reads[0]? = some (some text) :=
  (run_answers_each_line .standard ["def x = 2; x", "x"]).2.2 ["x", " quit ", "1"] 1 0 "x"
    rfl rfl (by decide +kernel) (by decide +kernel)

end Session

end LineCalc
