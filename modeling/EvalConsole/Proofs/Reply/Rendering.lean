/-
Outcomes by the text that they are shown with.

The text of an outcome is a label for its form, and behind that what the server or the network
supplied, or a status in decimal digits. Whatever stands behind them, two texts are the same only
if one of their labels starts with the other one; no label does, and none starts the text that a
running submission is shown with.

Main statements:

* `Outcome.render_eq`: the text of an outcome, from its form and its payload.
* `Outcome.Form.eq_of_label_prefix`: no label starts with another one.
* `Outcome.render_tells_apart`: outcomes with the same text are the same, and none has the text of
  a running submission or no text.
-/
import Mathlib.Tactic.Common
import EvalConsole.Evaluator

namespace EvalConsole.Outcome

/-! ### Forms -/

/-- The forms of outcomes: the three of replies, and the two of failures. -/
inductive Form where
  | result
  | error
  | unknown
  | status
  | transport
  deriving DecidableEq, Repr

/-- What the text of an outcome starts with. -/
def Form.label : Form → String
  | result => "Result: "
  | error => "Error: "
  | unknown => "Unknown response: "
  | status => "Server error: "
  | transport => "Fetch error: "

/-- The form of an outcome. -/
def form : Outcome → Form
  | .ok (.result _) => .result
  | .ok (.error _) => .error
  | .ok (.unknown _) => .unknown
  | .error (.status _) => .status
  | .error (.transport _) => .transport

/-- What stands behind the label of an outcome. -/
def payload : Outcome → String
  | .ok (.result text) => text
  | .ok (.error text) => text
  | .ok (.unknown json) => json
  | .error (.status code) => toString code.toNat
  | .error (.transport message) => message

variable {a b : Outcome}

/-- The text of an outcome is its payload behind its label. -/
theorem render_eq (a : Outcome) : a.render = a.form.label ++ a.payload := by
  match a with
  | .ok (.result _) => rfl
  | .ok (.error _) => rfl
  | .ok (.unknown _) => rfl
  | .error (.status _) => rfl
  | .error (.transport _) => rfl

/-- A status is known by its decimal digits. -/
theorem eq_of_digits {code other : UInt16}
    (digits : toString code.toNat = toString other.toNat) : code = other := by
  have same : Nat.toDigits 10 code.toNat = Nat.toDigits 10 other.toNat := by
    rw [← Nat.toList_repr, ← Nat.toList_repr]
    exact congrArg String.toList digits
  have read := congrArg (fun ds => Nat.ofDigitChars 10 ds 0) same
  rw [Nat.ofDigitChars_toDigits (by decide) (by decide),
    Nat.ofDigitChars_toDigits (by decide) (by decide)] at read
  exact UInt16.toNat_inj.mp read

/-- An outcome is known by its form and its payload. -/
theorem eq_of_form_of_payload (form : a.form = b.form) (payload : a.payload = b.payload) :
    a = b := by
  match a, b, form with
  | .ok (.result _), .ok (.result _), _ => exact congrArg (Except.ok ∘ Reply.result) payload
  | .ok (.error _), .ok (.error _), _ => exact congrArg (Except.ok ∘ Reply.error) payload
  | .ok (.unknown _), .ok (.unknown _), _ => exact congrArg (Except.ok ∘ Reply.unknown) payload
  | .error (.status _), .error (.status _), _ =>
    exact congrArg (Except.error ∘ FetchError.status) (eq_of_digits payload)
  | .error (.transport _), .error (.transport _), _ =>
    exact congrArg (Except.error ∘ FetchError.transport) payload

/-! ### Labels -/

/-- No label starts with another one. -/
theorem Form.eq_of_label_prefix {f g : Form} (h : f.label.toList <+: g.label.toList) : f = g := by
  revert h
  cases f <;> cases g <;> decide

/-- No label starts the text of a running submission. -/
theorem Form.not_label_prefix_runningText (f : Form) :
    ¬ f.label.toList <+: runningText.toList := by
  cases f <;> decide

theorem Form.label_ne_nil (f : Form) : f.label.toList ≠ [] := by
  cases f <;> decide

theorem label_prefix_render (a : Outcome) : a.form.label.toList <+: a.render.toList := by
  rw [render_eq, String.toList_append]
  exact List.prefix_append _ _

/-- Outcomes with the same text have the same label, so that their payloads are the same too. -/
theorem eq_of_render_eq (same : a.render = b.render) : a = b := by
  have front := label_prefix_render a
  rw [same] at front
  -- of two labels that start one text, the shorter one starts the other
  have form : a.form = b.form := by
    obtain shorter | shorter := List.prefix_or_prefix_of_prefix front (label_prefix_render b)
    · exact Form.eq_of_label_prefix shorter
    · exact (Form.eq_of_label_prefix shorter).symm
  refine eq_of_form_of_payload form ?_
  rw [render_eq, render_eq, form] at same
  exact (String.append_right_inj _).mp same

theorem render_ne_runningText (a : Outcome) : a.render ≠ runningText := by
  intro same
  have front := label_prefix_render a
  rw [same] at front
  exact a.form.not_label_prefix_runningText front

theorem render_ne_empty (a : Outcome) : a.render ≠ "" := by
  intro same
  have front := label_prefix_render a
  rw [same] at front
  exact a.form.label_ne_nil (List.prefix_nil.mp front)

/-! ### What is shown last -/

/-- The last text of a submission is that of its outcome, or that it is running. -/
theorem getLast?_shownTexts (e : Evaluator.Evaluation) :
    (Evaluator.shownTexts e).getLast? = some (e.outcome.elim runningText render) := by
  rw [Evaluator.shownTexts]
  cases e.outcome <;> rfl

/-- The text of a running submission tells it apart from one that has ended. -/
theorem eq_of_elim_render_eq {ended other : Option Outcome}
    (same : ended.elim runningText render = other.elim runningText render) : ended = other := by
  cases ended with
  | none =>
    cases other with
    | none => rfl
    | some b => exact absurd same.symm (render_ne_runningText b)
  | some a =>
    cases other with
    | none => exact absurd same (render_ne_runningText a)
    | some b => exact congrArg some (eq_of_render_eq same)

/-- Texts tell outcomes apart, whatever the server or the network supplied: two outcomes have the
same text only if they are the same, and no outcome has the text of a running submission, or no
text. The last text of a submission therefore says whether it has ended, and with which outcome. -/
theorem render_tells_apart :
    (∀ a b : Outcome, a.render = b.render ↔ a = b) ∧
    (∀ a : Outcome, a.render ≠ runningText ∧ a.render ≠ "") ∧
    ∀ e f : Evaluator.Evaluation,
      (Evaluator.shownTexts e).getLast? = (Evaluator.shownTexts f).getLast? ↔
        e.outcome = f.outcome := by
  refine ⟨fun a b => ⟨eq_of_render_eq, congrArg render⟩,
    fun a => ⟨render_ne_runningText a, render_ne_empty a⟩, fun e f => ?_⟩
  rw [getLast?_shownTexts, getLast?_shownTexts, Option.some_inj]
  refine ⟨eq_of_elim_render_eq, fun same => ?_⟩
  rw [same]

/-- A message that starts with a label of a reply is still one of a failure. -/
example : render (.error (.transport "Result: 3")) = "Fetch error: Result: 3" ∧
    render (.ok (.result "Result: 3")) = "Result: Result: 3" :=
  ⟨rfl, rfl⟩

end EvalConsole.Outcome
