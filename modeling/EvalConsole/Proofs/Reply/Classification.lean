/-
Which reply a body is.

The reply is decided on the value after its floats have been folded. It is the one that the
value as received calls for: folding changes neither which members there are nor which of
them count as present.

* `Json.Presents` says that a value has a member that counts.
* `Json.shownText` is the text shown for a member, `Json.shown` that of a whole value.
* `Reply.parse_classifies`: the reply for each value, and for each body.
-/
import EvalConsole.Proofs.Json.Folding
import EvalConsole.Proofs.Json.Grammar
import EvalConsole.Proofs.Json.Members
import EvalConsole.Reply

namespace EvalConsole

namespace Json

/-- An object has a member of a name that counts as present. -/
def Presents (v : Json) (name : String) (member : Json) : Prop :=
  ∃ members, v = .object members ∧ members.lookup name = some member ∧ ¬ member.IsFalsy

theorem Presents.unique {v member other : Json} {name : String} (h : v.Presents name member)
    (h' : v.Presents name other) : member = other := by
  obtain ⟨members, rfl, hlookup, -⟩ := h
  obtain ⟨_, heq, hlookup', -⟩ := h'
  cases heq
  exact Option.some.inj (hlookup.symm.trans hlookup')

/-- The compact text of a value with its floats shown as integers where they are some. -/
def shown (v : Json) : String :=
  String.ofList (v.compact shownFloat)

/-- The text shown for a member: a text verbatim, any other value as compact text. -/
def shownText : Json → String
  | .string s => s
  | v => v.shown

theorem write_foldIntegral (v : Json) : v.foldIntegral.write = v.shown := by
  rw [write, chars_foldIntegral, shown]

theorem shown_ne_empty (v : Json) : v.shown ≠ "" := by
  rw [shown, Ne, String.ofList_eq_empty_iff]
  exact compact_ne_nil v

theorem shownText_ne_empty {v : Json} (h : ¬ v.IsFalsy) : v.shownText ≠ "" := by
  cases v with
  | string s =>
    rintro rfl
    exact h .empty
  | null => exact shown_ne_empty _
  | bool value => exact shown_ne_empty _
  | int value => exact shown_ne_empty _
  | float value => exact shown_ne_empty _
  | array items => exact shown_ne_empty _
  | object members => exact shown_ne_empty _

theorem member?_eq_some_iff {v member : Json} {name : String} :
    v.member? name = some member ↔
      ∃ members, v = .object members ∧ members.lookup name = some member := by
  cases v with
  | object members => simp [member?]
  | _ => simp [member?]

/-- A text that is an object denotes one in which of the members of one name, as they are
written, the last one counts. -/
theorem exists_denotes_of_members {s s' rest : List Char} {written : List (String × Json)}
    (hopen : skipBlanks s = '\x7b' :: s')
    (h : Sequence (Member (Value (maxDepth - 1))) '\x7d' s' written rest)
    (hend : skipBlanks rest = []) :
    ∃ v, Denotes s v ∧ ∀ name, v.member? name = written.reverse.lookup name := by
  refine ⟨.object (Members.ofWritten written), ⟨rest, ?_, hend⟩, fun name => ?_⟩
  · rw [value_iff, hopen]
    exact .inr ⟨maxDepth - 1, rfl, .object h⟩
  · exact Members.lookup_ofWritten written name

end Json

namespace Reply

theorem textOf_foldIntegral (v : Json) : textOf v.foldIntegral = v.shownText := by
  cases v with
  | float value =>
    rw [Json.shownText, ← Json.write_foldIntegral, Json.foldIntegral]
    · split <;> rfl
    · rintro _ ⟨⟩
  | string s => rfl
  | null => exact Json.write_foldIntegral _
  | bool value => exact Json.write_foldIntegral _
  | int value => exact Json.write_foldIntegral _
  | array items => exact Json.write_foldIntegral _
  | object members => exact Json.write_foldIntegral _

/-- What is found after folding is a member that counted before. -/
theorem present?_foldIntegral_eq_some_iff {v w : Json} {name : String} :
    present? name v.foldIntegral = some w ↔
      ∃ member, v.Presents name member ∧ w = member.foldIntegral := by
  rw [present?, Json.member?_foldIntegral, Option.filter_eq_some_iff, Option.map_eq_some_iff]
  constructor
  · rintro ⟨⟨member, hmember, rfl⟩, htruthy⟩
    obtain ⟨members, hv, hlookup⟩ := Json.member?_eq_some_iff.mp hmember
    rw [Json.isTruthy_foldIntegral, Json.isTruthy_iff] at htruthy
    exact ⟨member, ⟨members, hv, hlookup, htruthy⟩, rfl⟩
  · rintro ⟨member, ⟨members, hv, hlookup, hpresent⟩, rfl⟩
    refine ⟨⟨member, Json.member?_eq_some_iff.mpr ⟨members, hv, hlookup⟩, rfl⟩, ?_⟩
    rw [Json.isTruthy_foldIntegral, Json.isTruthy_iff]
    exact hpresent

theorem present?_foldIntegral_eq_none_iff {v : Json} {name : String} :
    present? name v.foldIntegral = none ↔ ∀ member, ¬ v.Presents name member := by
  rw [Option.eq_none_iff_forall_ne_some]
  constructor
  · intro h member hpresents
    exact h _ (present?_foldIntegral_eq_some_iff.mpr ⟨member, hpresents, rfl⟩)
  · intro h w hw
    obtain ⟨member, hpresents, -⟩ := present?_foldIntegral_eq_some_iff.mp hw
    exact h member hpresents

/-- The three cases of a reply. -/
theorem ofJson_cases (v : Json) :
    (∃ member, v.Presents "error" member ∧ ofJson v = .error member.shownText) ∨
      (∀ member, ¬ v.Presents "error" member) ∧
        ((∃ member, v.Presents "result" member ∧ ofJson v = .result member.shownText) ∨
          (∀ member, ¬ v.Presents "result" member) ∧ ofJson v = .unknown v.shown) := by
  unfold ofJson
  dsimp only
  cases herror : present? "error" v.foldIntegral with
  | some w =>
    obtain ⟨member, hpresents, rfl⟩ := present?_foldIntegral_eq_some_iff.mp herror
    exact .inl ⟨member, hpresents, congrArg Reply.error (textOf_foldIntegral member)⟩
  | none =>
    refine .inr ⟨present?_foldIntegral_eq_none_iff.mp herror, ?_⟩
    cases hresult : present? "result" v.foldIntegral with
    | some w =>
      obtain ⟨member, hpresents, rfl⟩ := present?_foldIntegral_eq_some_iff.mp hresult
      exact .inl ⟨member, hpresents, congrArg Reply.result (textOf_foldIntegral member)⟩
    | none =>
      exact .inr ⟨present?_foldIntegral_eq_none_iff.mp hresult,
        congrArg Reply.unknown (Json.write_foldIntegral v)⟩

theorem ofJson_eq_error_iff {v : Json} {t : String} :
    ofJson v = .error t ↔ ∃ member, v.Presents "error" member ∧ t = member.shownText := by
  obtain ⟨member, hpresents, h⟩ | ⟨hnone, ⟨member, -, h⟩ | ⟨-, h⟩⟩ := ofJson_cases v
  · rw [h, error.injEq]
    constructor
    · rintro rfl
      exact ⟨member, hpresents, rfl⟩
    · rintro ⟨other, hother, rfl⟩
      rw [hpresents.unique hother]
  · rw [h]
    exact iff_of_false nofun fun ⟨other, hother, _⟩ => hnone other hother
  · rw [h]
    exact iff_of_false nofun fun ⟨other, hother, _⟩ => hnone other hother

theorem ofJson_eq_result_iff {v : Json} {t : String} :
    ofJson v = .result t ↔ (∀ member, ¬ v.Presents "error" member) ∧
      ∃ member, v.Presents "result" member ∧ t = member.shownText := by
  obtain ⟨member, hpresents, h⟩ | ⟨hnone, ⟨member, hpresents, h⟩ | ⟨hnone', h⟩⟩ := ofJson_cases v
  · rw [h]
    exact iff_of_false nofun fun ⟨hnot, _⟩ => hnot member hpresents
  · rw [h, result.injEq]
    constructor
    · rintro rfl
      exact ⟨hnone, member, hpresents, rfl⟩
    · rintro ⟨-, other, hother, rfl⟩
      rw [hpresents.unique hother]
  · rw [h]
    exact iff_of_false nofun fun ⟨_, other, hother, _⟩ => hnone' other hother

theorem ofJson_eq_unknown_iff {v : Json} {t : String} :
    ofJson v = .unknown t ↔ (∀ member, ¬ v.Presents "error" member) ∧
      (∀ member, ¬ v.Presents "result" member) ∧ t = v.shown := by
  obtain ⟨member, hpresents, h⟩ | ⟨hnone, ⟨member, hpresents, h⟩ | ⟨hnone', h⟩⟩ := ofJson_cases v
  · rw [h]
    exact iff_of_false nofun fun ⟨hnot, _⟩ => hnot member hpresents
  · rw [h]
    exact iff_of_false nofun fun ⟨_, hnot, _⟩ => hnot member hpresents
  · rw [h, unknown.injEq]
    constructor
    · rintro rfl
      exact ⟨hnone, hnone', rfl⟩
    · rintro ⟨-, -, rfl⟩
      rfl

/-- The reply for each value, and for each body. A value is an error if it is an object with a
member `error` that is not falsy, a result if not and it has such a member `result`, and unknown
otherwise. A text that is such a member is shown verbatim, any other member and an unknown value
as compact text, with the floats that are integers below `2 ^ 53` as integers; no text shown is
empty. A body is the reply for the value that it denotes, in which of the members of one name
the last one counts; it is a failure of transport if it denotes none. -/
theorem parse_classifies :
    (∀ v : Json,
      (∀ t, ofJson v = .error t ↔ ∃ member, v.Presents "error" member ∧ t = member.shownText) ∧
      (∀ t, ofJson v = .result t ↔ (∀ member, ¬ v.Presents "error" member) ∧
        ∃ member, v.Presents "result" member ∧ t = member.shownText) ∧
      (∀ t, ofJson v = .unknown t ↔ (∀ member, ¬ v.Presents "error" member) ∧
        (∀ member, ¬ v.Presents "result" member) ∧ t = v.shown) ∧
      ofJson v ≠ .error "" ∧ ofJson v ≠ .result "" ∧ ofJson v ≠ .unknown "") ∧
    (∀ x : Binary64,
      (∀ n : ℤ, x.toRat = n → n.natAbs < 2 ^ 53 → Json.shownFloat x = Json.intText n) ∧
      ((∀ n : ℤ, x.toRat = n → 2 ^ 53 ≤ n.natAbs) →
        Json.shownFloat x = x.text Json.floatLayout)) ∧
    (∀ body : String,
      (∀ v, Json.Denotes body.toList v → parse body = .ok (ofJson v)) ∧
      ((∃ message, parse body = .error (.transport message)) ↔
        ∀ v, ¬ Json.Denotes body.toList v) ∧
      ∀ code, parse body ≠ .error (.status code)) ∧
    ∀ s s' written rest, Json.skipBlanks s = '\x7b' :: s' →
      Json.Sequence (Json.Member (Json.Value (Json.maxDepth - 1))) '\x7d' s' written rest →
      Json.skipBlanks rest = [] →
      ∃ v, Json.Denotes s v ∧ ∀ name, v.member? name = written.reverse.lookup name := by
  refine ⟨fun v => ⟨fun t => ofJson_eq_error_iff, fun t => ofJson_eq_result_iff,
    fun t => ofJson_eq_unknown_iff, fun h => ?_, fun h => ?_, fun h => ?_⟩,
    fun x => ⟨fun n => Json.shownFloat_of_int, Json.shownFloat_of_not_int⟩,
    fun body => ⟨fun v hv => ?_, ?_, fun code h => ?_⟩,
    fun s s' written rest => Json.exists_denotes_of_members⟩
  · obtain ⟨member, ⟨members, -, -, hpresent⟩, hempty⟩ := ofJson_eq_error_iff.mp h
    exact Json.shownText_ne_empty hpresent hempty.symm
  · obtain ⟨-, member, ⟨members, -, -, hpresent⟩, hempty⟩ := ofJson_eq_result_iff.mp h
    exact Json.shownText_ne_empty hpresent hempty.symm
  · obtain ⟨-, -, hempty⟩ := ofJson_eq_unknown_iff.mp h
    exact Json.shown_ne_empty v hempty.symm
  · rw [parse, Json.parse_eq_ok_iff.mpr hv]
  · rw [← Json.parse_eq_error_iff, parse]
    cases Json.parse body with
    | ok v => exact iff_of_false nofun nofun
    | error message => exact iff_of_true ⟨message, rfl⟩ ⟨message, rfl⟩
  · rw [parse] at h
    split at h <;> cases h

end Reply

end EvalConsole
