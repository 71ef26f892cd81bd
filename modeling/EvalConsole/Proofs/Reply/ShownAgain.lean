/-
Shown text is shown again.

If every number of a body is an integer or a float that stands for a small one, what is shown of
the body as compact text is JSON for the value of the body with its floats folded. As a body of its
own it is therefore the same reply, and so is a member that is put into an object of its own under
its name.

Main statements:

* `Reply.parse_shown`: the compact text of a value is the reply that the value is.
* `Reply.shown_again`: this for each kind of reply, and the order of the names in the text.
-/
import EvalConsole.Proofs.Json.ReadBack
import EvalConsole.Proofs.Reply.Classification

namespace EvalConsole

namespace Json

variable {v inner : Json} {depth : ℕ} {name : String}

/-- A member fits if its object does, and stands one level deeper. -/
theorem Fits.member (h : Fits (depth + 1) v) (there : v.member? name = some inner) :
    Fits depth inner := by
  obtain ⟨members, rfl, found⟩ := member?_eq_some_iff.mp there
  cases h with
  | object _ each => exact each (name, inner) (Members.mem_of_lookup found)

theorem Integral.member (h : v.Integral) (there : v.member? name = some inner) :
    inner.Integral := by
  obtain ⟨members, rfl, found⟩ := member?_eq_some_iff.mp there
  cases h with
  | object each => exact each (name, inner) (Members.mem_of_lookup found)

/-- An object of one member fits if the member does one level deeper. -/
theorem Fits.single (h : Fits depth inner) (name : String) :
    Fits (depth + 1) (.object [(name, inner)]) := by
  refine .object (by simp) fun other there => ?_
  obtain rfl := List.mem_singleton.mp there
  exact h

theorem Integral.single (h : inner.Integral) (name : String) :
    Integral (.object [(name, inner)]) := by
  refine .object fun other there => ?_
  obtain rfl := List.mem_singleton.mp there
  exact h

/-- What fits into a depth fits into a larger one. -/
theorem Fits.deeper (h : Fits depth v) : Fits (depth + 1) v := by
  induction h with
  | null => exact .null
  | bool value => exact .bool value
  | int low high => exact .int low high
  | float value => exact .float value
  | string value => exact .string value
  | array _ ih => exact .array ih
  | object distinct _ ih => exact .object distinct ih

theorem Presents.member?_eq (h : v.Presents name inner) {other : Json}
    (there : v.member? name = some other) : inner = other := by
  obtain ⟨members, rfl, found, -⟩ := h
  exact Option.some.inj (found.symm.trans there)

theorem Presents.single (h : v.Presents name inner) :
    (object [(name, inner)]).Presents name inner := by
  obtain ⟨_, -, -, counts⟩ := h
  exact ⟨_, rfl, List.lookup_cons_self, counts⟩

theorem not_presents_single {other : String} (ne : other ≠ name) (member : Json) :
    ¬ (object [(name, inner)]).Presents other member := by
  rintro ⟨members, same, found, -⟩
  obtain rfl := Json.object.inj same
  rw [List.lookup_cons, beq_false_of_ne ne, List.lookup_nil] at found
  cases found

theorem parse_shown (fits : Fits maxDepth v) (integral : v.Integral) :
    Json.parse v.shown = .ok v.foldIntegral := by
  rw [parse_eq_ok_iff, shown, String.toList_ofList]
  exact fits.denotes_compact integral

theorem shownText_of_not_string (h : ∀ s, v ≠ .string s) : v.shownText = v.shown := by
  cases v with
  | string s => exact absurd rfl (h s)
  | _ => rfl

end Json

namespace Reply

variable {v : Json}

/-- An object with one member, given the text of the member's value. -/
def onlyMember (name text : String) : String :=
  String.ofList ('\x7b' :: (Json.quoted name ++ ':' :: text.toList) ++ ['\x7d'])

theorem onlyMember_shown (name : String) (member : Json) :
    onlyMember name member.shown = (Json.object [(name, member)]).shown := by
  rw [onlyMember, Json.shown, Json.shown, String.toList_ofList, Json.compact, Json.compactMembers,
    Json.compactMembers, List.intercalate_singleton]

theorem ofJson_foldIntegral (v : Json) : ofJson v.foldIntegral = ofJson v := by
  unfold ofJson
  rw [Json.foldIntegral_foldIntegral]

/-- The compact text of a value is the reply that the value is. -/
theorem parse_shown (fits : v.Fits Json.maxDepth) (integral : v.Integral) :
    parse v.shown = .ok (ofJson v) := by
  rw [parse, Json.parse_shown fits integral, ← ofJson_foldIntegral]

/-- A member that is no text is shown as JSON, and in an object of its own it is the reply that its
name calls for. -/
theorem parse_onlyMember {name : String} {member : Json} (fits : v.Fits Json.maxDepth)
    (integral : v.Integral) (there : v.member? name = some member)
    (noText : ∀ s, member ≠ .string s) :
    Json.parse member.shownText = .ok member.foldIntegral ∧
      parse (onlyMember name member.shownText) = .ok (ofJson (.object [(name, member)])) := by
  have inner : member.Fits (Json.maxDepth - 1) := Json.Fits.member fits there
  have whole : member.Integral := integral.member there
  rw [Json.shownText_of_not_string noText, onlyMember_shown]
  exact ⟨Json.parse_shown inner.deeper whole, parse_shown (inner.single name) (whole.single name)⟩

/-- What is shown of a body as compact text is shown again. Let the numbers of a body be integers,
or floats that stand for integers below `2 ^ 53`. Of an unknown body the text shown is JSON for the
value of the body with its floats folded, and as a body it is the same reply. Of an error or a
result that is a member other than a text, the text shown is JSON for this member, and in an object
of its own under its name it is the same reply. Names stand in the text as they do in the body: at
any depth an object has the names that are written for it, each where it is written first, and
folding leaves them there. -/
theorem shown_again {body : String} {v : Json} (parsed : Json.parse body = .ok v)
    (integral : v.Integral) :
    (∀ raw, parse body = .ok (.unknown raw) →
      Json.parse raw = .ok v.foldIntegral ∧ parse raw = .ok (.unknown raw)) ∧
    (∀ t member, parse body = .ok (.error t) → v.member? "error" = some member →
      (∀ s, member ≠ .string s) →
      Json.parse t = .ok member.foldIntegral ∧ parse (onlyMember "error" t) = .ok (.error t)) ∧
    (∀ t member, parse body = .ok (.result t) → v.member? "result" = some member →
      (∀ s, member ≠ .string s) →
      Json.parse t = .ok member.foldIntegral ∧ parse (onlyMember "result" t) = .ok (.result t)) ∧
    ∀ depth s rest members, Json.Value depth s (.object members) rest →
      ∃ below s' written, depth = below + 1 ∧ Json.skipBlanks s = '\x7b' :: s' ∧
        Json.Sequence (Json.Member (Json.Value below)) '\x7d' s' written rest ∧
        members.map Prod.fst = (written.map Prod.fst).eraseDups ∧
        (Json.object members).foldIntegral =
          .object (members.map fun member => (member.1, member.2.foldIntegral)) := by
  obtain ⟨rest, value, -⟩ := Json.parse_eq_ok_iff.mp parsed
  have fits : v.Fits Json.maxDepth := value.fits
  have reply : parse body = .ok (ofJson v) := by
    rw [parse, parsed]
  have here {r : Reply} (shown : parse body = .ok r) : ofJson v = r :=
    Except.ok.inj (reply.symm.trans shown)
  refine ⟨fun raw shown => ?_, fun t member shown there noText => ?_,
    fun t member shown there noText => ?_, fun depth s rest members written => ?_⟩
  · obtain ⟨-, -, rfl⟩ := ofJson_eq_unknown_iff.mp (here shown)
    refine ⟨Json.parse_shown fits integral, ?_⟩
    rw [parse_shown fits integral, here shown]
  · obtain ⟨other, present, rfl⟩ := ofJson_eq_error_iff.mp (here shown)
    obtain rfl := present.member?_eq there
    obtain ⟨denotes, single⟩ := parse_onlyMember fits integral there noText
    refine ⟨denotes, single.trans (congrArg Except.ok ?_)⟩
    exact ofJson_eq_error_iff.mpr ⟨other, present.single, rfl⟩
  · obtain ⟨-, other, present, rfl⟩ := ofJson_eq_result_iff.mp (here shown)
    obtain rfl := present.member?_eq there
    obtain ⟨denotes, single⟩ := parse_onlyMember fits integral there noText
    refine ⟨denotes, single.trans (congrArg Except.ok ?_)⟩
    exact ofJson_eq_result_iff.mpr ⟨Json.not_presents_single (by decide), other, present.single, rfl⟩
  · obtain ⟨below, s', all, deep, opens, sequence, names⟩ := written.object_names
    refine ⟨below, s', all, deep, opens, sequence, names, ?_⟩
    rw [Json.foldIntegral, Json.foldMembers_eq_map]

/-! ### A body with blanks and a float -/

/-- One as a double. -/
def one : Binary64 :=
  ⟨false, Nat.pow 2 52, 1022, Nat.le_of_ble_eq_true rfl, Nat.le_of_ble_eq_true rfl,
    .inr (Nat.le_refl _)⟩

/-- How one is read, which integer it is, and how it is shown as a member. -/
theorem one_read_and_shown :
    Json.Numeral.float? false 10 (-1) = some one ∧ one.toInt? = some 1 ∧
      ofJson (.object [("n", .float one)]) = .unknown "\x7b\"n\":1\x7d" := by
  decide +kernel

theorem value_one : Json.Numeral.value ⟨false, ['1'], some ['0'], none⟩ = .ok (.float one) := by
  have reached : Json.Numeral.value ⟨false, ['1'], some ['0'], none⟩ =
      Json.Numeral.finite (Json.Numeral.float? false 10 (-1)) := rfl
  rw [reached, one_read_and_shown.1]
  rfl

theorem parse_one :
    Json.parse "\x7b \"n\" : 1.0\x7d" = .ok (.object [("n", .float one)]) := by
  have number : Json.Scalar ['1', '.', '0', '\x7d'] (.float one) ['\x7d'] := by
    refine .number ⟨['.', '0', '\x7d'], ['\x7d'], ?_, ?_, ?_⟩ rfl value_one
    · exact .digits rfl (by decide) ⟨rfl, by simp, by simp⟩
    · exact .some (by simp) ⟨rfl, by simp, by simp⟩
    · exact .none (by simp)
  have name : Json.Quoted ['n', '"', ' ', ':', ' ', '1', '.', '0', '\x7d'] ['n']
      [' ', ':', ' ', '1', '.', '0', '\x7d'] :=
    .plain (by decide) (by decide) (by decide) .close
  have member : Json.Member (Json.Value 126)
      ['"', 'n', '"', ' ', ':', ' ', '1', '.', '0', '\x7d'] ("n", .float one) ['\x7d'] :=
    .named name rfl (Json.value_iff.mpr (.inl number))
  have sequence : Json.Sequence (Json.Member (Json.Value 126)) '\x7d'
      [' ', '"', 'n', '"', ' ', ':', ' ', '1', '.', '0', '\x7d'] [("n", .float one)] [] :=
    .members member (.close rfl)
  exact Json.parse_eq_ok_iff.mpr
    ⟨[], Json.value_iff.mpr (.inr ⟨126, rfl, .object sequence⟩), rfl⟩

theorem integral_one : (Json.object [("n", .float one)]).Integral := by
  have whole : one.toRat = (1 : ℤ) := Binary64.toInt?_eq_some_iff.mp one_read_and_shown.2.1
  exact Json.Integral.single (.float whole (by decide)) "n"

/-- A body with a float is shown with an integer, without the blanks; what is shown is shown
again. -/
theorem shown_again_one :
    Json.parse "\x7b \"n\" : 1.0\x7d" = .ok (.object [("n", .float one)]) ∧
      (Json.object [("n", .float one)]).Integral ∧
      parse "\x7b \"n\" : 1.0\x7d" = .ok (.unknown "\x7b\"n\":1\x7d") ∧
      parse "\x7b\"n\":1\x7d" = .ok (.unknown "\x7b\"n\":1\x7d") := by
  have shown : parse "\x7b \"n\" : 1.0\x7d" = .ok (.unknown "\x7b\"n\":1\x7d") := by
    rw [parse, parse_one]
    exact congrArg Except.ok one_read_and_shown.2.2
  exact ⟨parse_one, integral_one, shown, ((shown_again parse_one integral_one).1 _ shown).2⟩

end Reply

end EvalConsole
