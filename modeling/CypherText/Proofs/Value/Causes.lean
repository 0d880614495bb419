import CypherText.Proofs.Value.Literal

/-!
# Why a value has no literal

Four things can keep a value from being written. The text that the literal takes from the value may
hold the numeral of an integer with too many digits, or need more texts inside one another than
there is room for; the class of a timestamp may refuse the parts of the converted one; and the bytes
of a view may not lie in one piece. `Shows` says which integers the text of a value has inside a
container, and `Writes` which ones its text has where it stands alone. The two differ for instances
of derived types and for members of enumerations: on their own these show a text or a name, and
inside a container the value behind it.
-/

namespace CypherText

/-- A computation fails exactly if there is a cause, and then for one of the causes. -/
structure FailsFor {α : Type} (causes : Failure → Prop) (result : Except Failure α) : Prop where
  /-- Whatever the computation fails by is a cause. -/
  due : ∀ failure, result = .error failure → causes failure
  /-- Where there is a cause, the computation fails. -/
  fails : ∀ failure, causes failure → ∃ first, result = .error first

namespace FailsFor

variable {α β : Type} {P Q : Failure → Prop}

theorem ok (never : ∀ failure, ¬ P failure) (a : α) : FailsFor P (.ok a : Except Failure α) where
  due := fun _ impossible => nomatch impossible
  fails := fun failure cause => absurd cause (never failure)

theorem error {failure : Failure} (cause : P failure) :
    FailsFor P (.error failure : Except Failure α) where
  due := by
    rintro _ ⟨⟩
    exact cause
  fails := fun _ _ => ⟨failure, rfl⟩

theorem never_of_ok {a : α} (fails : FailsFor P (.ok a : Except Failure α)) (failure : Failure) :
    ¬ P failure := by
  intro cause
  obtain ⟨_, impossible⟩ := fails.fails failure cause
  contradiction

theorem congr {result : Except Failure α} (fails : FailsFor P result)
    (same : ∀ failure, P failure ↔ Q failure) : FailsFor Q result := by
  have equal : P = Q := funext fun failure => propext (same failure)
  rwa [← equal]

/-- Two steps in a row fail for the causes of the first one and those of the second one. -/
theorem bind {first : Except Failure α} {next : α → Except Failure β} (starts : FailsFor P first)
    (goesOn : ∀ a, first = .ok a → FailsFor Q (next a)) :
    FailsFor (fun failure => P failure ∨ Q failure) (first >>= next) := by
  cases first with
  | error failure => exact error (.inl (starts.due failure rfl))
  | ok a =>
      have second := goesOn a rfl
      change FailsFor _ (next a)
      cases result : next a with
      | error failure => exact error (.inr (second.due failure result))
      | ok b =>
          rw [result] at second
          exact ok (fun failure => not_or.mpr
            ⟨starts.never_of_ok failure, second.never_of_ok failure⟩) b

theorem map {result : Except Failure α} (f : α → β) (fails : FailsFor P result) :
    FailsFor P (f <$> result) := by
  cases result with
  | error failure => exact error (fails.due failure rfl)
  | ok a => exact ok fails.never_of_ok (f a)

/-- A result that is changed or kept, as a flag says. -/
theorem ite_map {result : Except Failure α} (keep : Bool) (f : α → α) (fails : FailsFor P result) :
    FailsFor P (if keep then result else f <$> result) := by
  cases keep with
  | false => exact fails.map f
  | true => exact fails

theorem exists_eq_ok_iff {result : Except Failure α} (fails : FailsFor P result) :
    (∃ a, result = .ok a) ↔ ∀ failure, ¬ P failure := by
  cases result with
  | ok a => exact ⟨fun _ => fails.never_of_ok, fun _ => ⟨a, rfl⟩⟩
  | error failure => simpa using ⟨failure, fails.due failure rfl⟩

end FailsFor

/-! ## Failures of texts -/

/-- Whether a text fails exactly if a numeral in it is too long or too many texts are made inside
one another, and then accordingly. -/
def FailsText {α : Type} (tooLong tooDeep : Prop) (result : Except Failure α) : Prop :=
  FailsFor
    (fun failure => failure = .numeralTooLong ∧ tooLong ∨ failure = .tooDeep ∧ tooDeep) result

namespace FailsText

variable {α β : Type} {P Q R S : Prop}

theorem ok (short : ¬ P) (flat : ¬ Q) (a : α) : FailsText P Q (.ok a : Except Failure α) := by
  apply FailsFor.ok
  rintro failure (⟨_, tooLong⟩ | ⟨_, tooDeep⟩)
  · exact short tooLong
  · exact flat tooDeep

theorem numeralTooLong (tooLong : P) :
    FailsText P Q (.error .numeralTooLong : Except Failure α) :=
  .error (.inl ⟨rfl, tooLong⟩)

theorem tooDeep (deep : Q) : FailsText P Q (.error .tooDeep : Except Failure α) :=
  .error (.inr ⟨rfl, deep⟩)

theorem congr {result : Except Failure α} (fails : FailsText P Q result) (sameLong : P ↔ R)
    (sameDeep : Q ↔ S) : FailsText R S result := by
  rwa [← propext sameLong, ← propext sameDeep]

theorem bind {first : Except Failure α} {next : α → Except Failure β} (starts : FailsText P Q first)
    (goesOn : ∀ a, first = .ok a → FailsText R S (next a)) :
    FailsText (P ∨ R) (Q ∨ S) (first >>= next) := by
  refine (FailsFor.bind starts goesOn).congr fun failure => ?_
  rw [and_or_left, and_or_left, or_or_or_comm]

/-- A last step that cannot fail adds no cause. -/
theorem bind_ok {result : Except Failure α} (f : α → β) (fails : FailsText P Q result) :
    FailsText P Q (result >>= fun a => .ok (f a)) := by
  have mapped := FailsFor.map f fails
  rwa [map_eq_pure_bind] at mapped

end FailsText

namespace Numeral

/-- Whether an integer has more than 4300 decimal digits. -/
def IsTooLong (n : Int) : Prop :=
  4300 < (digits n.natAbs).length

/-- A number has at most as many digits as the limit says if it is below that power of ten. -/
theorem length_digits_le_iff (n limit : Nat) (positive : 0 < limit) :
    (digits n).length ≤ limit ↔ n < Nat.pow 10 limit :=
  Nat.length_toDigits_le_iff (by decide) positive

theorem isTooLong_iff (n : Int) : IsTooLong n ↔ isWritable n = false := by
  rw [isWritable, decide_eq_false_iff_not, ← length_digits_le_iff _ _ (by decide), Nat.not_le]
  rfl

/-- An integer has no numeral exactly if it is too long. -/
theorem failsText_ofInt (n : Int) : FailsText (IsTooLong n) False (ofInt n) := by
  unfold ofInt
  split
  case isTrue writable =>
    have short : ¬ IsTooLong n := by simp [isTooLong_iff, writable]
    exact FailsText.ok short not_false _
  case isFalse notWritable =>
    have tooLong : IsTooLong n := by simpa [isTooLong_iff] using notWritable
    exact FailsText.numeralTooLong tooLong

end Numeral

namespace Value

/-! ## Texts inside containers -/

/-- The values whose texts stand in the text of a value inside a container: the elements, the keys
and values of the entries, the base of an instance of a derived type, and the value of a member. -/
def parts : Value → List Value
  | list items => items
  | tuple items => items
  | map entries => entries.flatMap fun entry => [entry.1, entry.2]
  | derived _ base _ _ => [base]
  | member _ _ _ v => [v]
  | _ => []

/-- `v.Shows n`: inside a container the text of `v` holds the numeral of `n`. -/
inductive Shows : Value → Int → Prop
  | int {n : Int} : Shows (int n) n
  | part {v inner : Value} {n : Int} (among : inner ∈ v.parts) (shows : Shows inner n) : Shows v n

/-- Whether the text of a value inside a container holds the numeral of an integer that is too long.
-/
def ShowsTooLong (v : Value) : Prop :=
  ∃ n, v.Shows n ∧ Numeral.IsTooLong n

theorem showsTooLong_int_iff (n : Int) : (int n).ShowsTooLong ↔ Numeral.IsTooLong n := by
  constructor
  · rintro ⟨_, shows, tooLong⟩
    cases shows with
    | int => exact tooLong
    | part among _ => contradiction
  · intro tooLong
    exact ⟨n, .int, tooLong⟩

/-- Any value but an integer only shows what its parts show. -/
theorem showsTooLong_iff_of_ne_int {v : Value} (notInt : ∀ n, v ≠ int n) :
    v.ShowsTooLong ↔ ∃ inner ∈ v.parts, inner.ShowsTooLong := by
  constructor
  · rintro ⟨n, shows, tooLong⟩
    cases shows with
    | int => exact absurd rfl (notInt n)
    | part among shows => exact ⟨_, among, n, shows, tooLong⟩
  · rintro ⟨inner, among, n, shows, tooLong⟩
    exact ⟨n, .part among shows, tooLong⟩

/-- Byte strings show no integers, whatever types are derived from theirs. -/
theorem not_shows_of_content_eq_bytes {v : Value} {kind : BytesKind} {data : List UInt8} {n : Int}
    (content : v.content = bytes kind data) : ¬ v.Shows n := by
  intro shows
  induction shows with
  | int => contradiction
  | @part v inner n among shows ih =>
      cases v with
      | derived type base shown remaking =>
          cases List.mem_singleton.mp among
          exact ih content
      | member mixin type name value =>
          cases List.mem_singleton.mp among
          cases mixin with
          | bare => contradiction
          | named => exact ih content
          | transparent => exact ih content
      | _ => contradiction

/-! ## Texts inside one another -/

mutual

/-- How many texts are made inside one another while the text of a value is made inside a container.
-/
def depth : Value → Nat
  | timestamp t => t.clock.zone.levels
  | clock c => c.zone.levels
  | uuid _ => 4
  | list items => depthOfAll items
  | tuple items => depthOfAll items
  | map entries => depthOfEntries entries
  | foreign _ _ => 1
  | derived _ base _ _ =>
    match base.content with
    | bytes .mutable _ => 0
    | _ => base.depth
  | member mixin _ _ value => memberLevels mixin + value.depth
  | _ => 0

/-- The depth of the elements of a list or tuple. -/
def depthOfAll : List Value → Nat
  | [] => 0
  | v :: rest => max (1 + v.depth) (depthOfAll rest)

/-- The depth of the entries of a mapping. -/
def depthOfEntries : List (Value × Value) → Nat
  | [] => 0
  | (key, v) :: rest => max (max (1 + key.depth) (1 + v.depth)) (depthOfEntries rest)

end

theorem failsText_descend (levels room : Nat) :
    FailsText False (room < levels) (descend levels room) := by
  unfold descend
  split
  case isTrue enough => exact .ok not_false (Nat.not_lt_of_le enough) _
  case isFalse notEnough => exact .tooDeep (Nat.lt_of_not_le notEnough)

theorem failsText_within (levels room : Nat) (text : String) :
    FailsText False (room < levels) (within levels room text) :=
  (failsText_descend levels room).bind_ok fun _ => text

/-- The text of a value some levels further inside. -/
theorem failsText_descend_inspect {v : Value}
    (fails : ∀ room, FailsText v.ShowsTooLong (room < v.depth) (v.inspect room))
    (levels room : Nat) :
    FailsText v.ShowsTooLong (room < levels + v.depth)
      (do v.inspect (← descend levels room)) := by
  have inside : ∀ inner, descend levels room = .ok inner →
      FailsText v.ShowsTooLong (room - levels < v.depth) (v.inspect inner) := by
    intro inner descends
    unfold descend at descends
    split at descends
    · cases descends
      exact fails (room - levels)
    · contradiction
  exact ((failsText_descend levels room).bind inside).congr (by simp) (by omega)

mutual

theorem failsText_inspect (room : Nat) (v : Value) :
    FailsText v.ShowsTooLong (room < v.depth) (v.inspect room) := by
  have shows : (∀ n, v ≠ int n) → (v.ShowsTooLong ↔ ∃ inner ∈ v.parts, inner.ShowsTooLong) :=
    showsTooLong_iff_of_ne_int
  cases v with
  | int n =>
      rw [inspect]
      exact (Numeral.failsText_ofInt n).congr (showsTooLong_int_iff n).symm (by simp [depth])
  | timestamp t =>
      exact (failsText_within t.clock.zone.levels room _).congr (by simp [shows, parts])
        (by simp [depth])
  | clock c =>
      exact (failsText_within c.zone.levels room _).congr (by simp [shows, parts]) (by simp [depth])
  | uuid u => exact (failsText_within 4 room _).congr (by simp [shows, parts]) (by simp [depth])
  | foreign type shown =>
      exact (failsText_within 1 room _).congr (by simp [shows, parts]) (by simp [depth])
  | list items =>
      exact ((failsText_inspectAll room items).bind_ok _).congr (by simp [shows, parts])
        (by simp [depth])
  | tuple items =>
      exact ((failsText_inspectAll room items).bind_ok _).congr (by simp [shows, parts])
        (by simp [depth])
  | map entries =>
      exact ((failsText_inspectEntries room entries).bind_ok _).congr (by simp [shows, parts])
        (by simp [depth])
  | derived type base shown remaking =>
      have same : base.ShowsTooLong ↔ (derived type base shown remaking).ShowsTooLong := by
        simp [shows, parts]
      rw [inspect]
      split
      case h_1 data content =>
        refine FailsText.ok ?_ (by simp [depth, content]) _
        rw [← same]
        rintro ⟨n, showsInt, _⟩
        exact not_shows_of_content_eq_bytes content showsInt
      case h_2 other =>
        have sameDepth : base.depth = (derived type base shown remaking).depth := by
          rw [depth]
          split
          · rename_i data content
            exact absurd content (other data)
          · rfl
        exact (failsText_inspect room base).congr same (by rw [sameDepth])
  | member mixin type name value =>
      have inside := failsText_descend_inspect (fun room => failsText_inspect room value)
        (memberLevels mixin) room
      rw [inspect, ← bind_assoc]
      exact (inside.bind_ok _).congr (by simp [shows, parts]) (by simp [depth])
  | null | bool _ | double _ | decimal _ | text _ | date _ | duration _ | bytes _ _ =>
      exact FailsText.ok (by simp [shows, parts]) (by simp [depth]) _

theorem failsText_inspectAll (room : Nat) (items : List Value) :
    FailsText (∃ v ∈ items, v.ShowsTooLong) (room < depthOfAll items) (inspectAll room items) := by
  cases items with
  | nil => exact .ok (by simp) (by simp [depthOfAll]) []
  | cons v items =>
      have first := failsText_descend_inspect (fun room => failsText_inspect room v) 1 room
      rw [inspectAll, ← bind_assoc]
      exact (first.bind fun _ _ => (failsText_inspectAll room items).bind_ok _).congr (by simp)
        (by rw [depthOfAll]; omega)

theorem failsText_inspectEntries (room : Nat) (entries : List (Value × Value)) :
    FailsText (∃ v ∈ entries.flatMap fun entry => [entry.1, entry.2], v.ShowsTooLong)
      (room < depthOfEntries entries) (inspectEntries room entries) := by
  cases entries with
  | nil => exact .ok (by simp) (by simp [depthOfEntries]) []
  | cons entry entries =>
      obtain ⟨key, v⟩ := entry
      have first := failsText_descend_inspect (fun room => failsText_inspect room key) 1 room
      have second := failsText_descend_inspect (fun room => failsText_inspect room v) 1 room
      have rest (keyForm : String) :
          FailsText
            (v.ShowsTooLong ∨
              ∃ inner ∈ entries.flatMap fun entry => [entry.1, entry.2], inner.ShowsTooLong)
            (room < 1 + v.depth ∨ room < depthOfEntries entries)
            (do
              let form ← inspect (← descend 1 room) v
              let forms ← inspectEntries room entries
              return (keyForm ++ ": " ++ form) :: forms) := by
        rw [← bind_assoc]
        exact second.bind fun _ _ => (failsText_inspectEntries room entries).bind_ok _
      rw [inspectEntries, ← bind_assoc]
      exact (first.bind fun keyForm _ => rest keyForm).congr (by simp)
        (by rw [depthOfEntries]; omega)

end

/-! ## Texts that stand alone -/

/-- `v.Writes n`: the text of `v` on its own holds the numeral of `n`. A value with a text of its
own writes no integers; any other shows those of its content. -/
def Writes (v : Value) (n : Int) : Prop :=
  v.ownText? = none ∧ v.content.Shows n

/-- Whether the text of a value holds the numeral of an integer that is too long. -/
def WritesTooLong (v : Value) : Prop :=
  ∃ n, v.Writes n ∧ Numeral.IsTooLong n

theorem writesTooLong_iff (v : Value) :
    v.WritesTooLong ↔ v.ownText? = none ∧ v.content.ShowsTooLong := by
  constructor
  · rintro ⟨n, ⟨noOwn, shows⟩, tooLong⟩
    exact ⟨noOwn, n, shows, tooLong⟩
  · rintro ⟨noOwn, n, shows, tooLong⟩
    exact ⟨n, ⟨noOwn, shows⟩, tooLong⟩

/-- How many texts are made inside one another while the text of a value without a text of its own
is made where it stands alone. -/
def innerDepth : Value → Nat
  | list items => depthOfAll items
  | tuple items => depthOfAll items
  | map entries => depthOfEntries entries
  | _ => 0

/-- How many texts are made inside one another while the text of a value is made where it stands
alone. -/
def writtenDepth (v : Value) : Nat :=
  if v.ownText?.isSome then 0 else v.content.innerDepth

theorem failsText_display_of_ownText?_eq_none (room : Nat) {v : Value} (noOwn : v.ownText? = none) :
    FailsText v.content.ShowsTooLong (room < v.content.innerDepth) (v.display room) := by
  match v with
  | member .transparent _ _ inner =>
      exact failsText_display_of_ownText?_eq_none room (v := inner) noOwn
  | derived _ _ _ _ | member .named _ _ _ | member .bare _ _ _ => contradiction
  | text _ | decimal _ | timestamp _ | date _ | clock _ | duration _ | uuid _ | foreign _ _ =>
      exact .ok (by simp [content, showsTooLong_iff_of_ne_int, parts])
        (by simp [content, innerDepth]) _
  | null | bool _ | int _ | double _ | bytes _ _ | list _ | tuple _ | map _ =>
      exact failsText_inspect room _

/-- A value has no text exactly if it would hold the numeral of an integer that is too long, or need
more texts inside one another than there is room for. -/
theorem failsText_display (room : Nat) (v : Value) :
    FailsText v.WritesTooLong (room < v.writtenDepth) (v.display room) := by
  cases own : v.ownText? with
  | some text =>
      rw [display_of_ownText? own]
      exact .ok (by simp [writesTooLong_iff, own]) (by simp [writtenDepth, own]) text
  | none =>
      exact (failsText_display_of_ownText?_eq_none room own).congr
        (by simp [writesTooLong_iff, own]) (by simp [writtenDepth, own])

/-! ## Literals -/

/-- What keeps a value from being written, with the failure that it leads to. -/
inductive Obstacle (platform : Platform) (v : Value) : Failure → Prop
  /-- The text of the value holds the numeral of an integer that is too long. -/
  | numeral {n : Int} (writes : v.Writes n) (tooLong : 4300 < (Numeral.digits n.natAbs).length) :
      Obstacle platform v .numeralTooLong
  /-- The text of the value needs too many texts inside one another. -/
  | depth (deep : platform.room < v.writtenDepth) : Obstacle platform v .tooDeep
  /-- The class of a timestamp refuses the converted one, and not as an impossible one. -/
  | timestamp {t : Timestamp} {failure : Failure} {isOther : failure.isFault = false}
      (content : v.content = .timestamp t)
      (converted : t.isConverted platform.localOffset = true)
      (refused : v.remaking = .refused failure isOther) (notOfValue : failure.isOfValue = false) :
      Obstacle platform v failure
  /-- The bytes of a view do not lie in one piece. -/
  | bytes {kind : BytesKind} {data : List UInt8} {failure : Failure}
      (content : v.content = .bytes kind data) (broken : kind.failure? = some failure) :
      Obstacle platform v failure

theorem failsFor_timestampText (localOffset : Int) (remaking : Remaking) (t : Timestamp) :
    FailsFor
      (fun failure => t.isConverted localOffset = true ∧ failure.isOfValue = false ∧
        ∃ isOther, remaking = .refused failure isOther)
      (timestampText localOffset remaking t) := by
  cases remaking with
  | made => exact .ok (by simp) _
  | refused failure isOther =>
      rw [timestampText]
      split
      case isTrue refuses =>
        rw [Bool.and_eq_true, Bool.not_eq_true'] at refuses
        exact .error ⟨refuses.1, refuses.2, isOther, rfl⟩
      case isFalse accepts =>
        refine .ok ?_ _
        rintro _ ⟨converted, notOfValue, _, ⟨⟩⟩
        exact accepts (by rw [converted, notOfValue]; rfl)

theorem failsFor_base64Text (kind : BytesKind) (data : List UInt8) :
    FailsFor (fun failure => kind.failure? = some failure) (base64Text kind data) := by
  unfold base64Text wholeBytes
  cases broken : kind.failure? with
  | none => exact .ok (by simp) _
  | some failure => exact .error rfl

theorem obstacle_iff (platform : Platform) (v : Value) (failure : Failure) :
    v.Obstacle platform failure ↔
      (failure = .numeralTooLong ∧ v.WritesTooLong ∨
        failure = .tooDeep ∧ platform.room < v.writtenDepth) ∨
      (∃ t, v.content = .timestamp t ∧ t.isConverted platform.localOffset = true ∧
        failure.isOfValue = false ∧ ∃ isOther, v.remaking = .refused failure isOther) ∨
      ∃ kind data, v.content = .bytes kind data ∧ kind.failure? = some failure := by
  constructor
  · rintro (⟨writes, tooLong⟩ | deep | ⟨content, converted, refused, notOfValue⟩ |
      ⟨content, broken⟩)
    · exact .inl (.inl ⟨rfl, _, writes, tooLong⟩)
    · exact .inl (.inr ⟨rfl, deep⟩)
    · exact .inr (.inl ⟨_, content, converted, notOfValue, _, refused⟩)
    · exact .inr (.inr ⟨_, _, content, broken⟩)
  · rintro ((⟨rfl, n, writes, tooLong⟩ | ⟨rfl, deep⟩) |
      ⟨t, content, converted, notOfValue, _, refused⟩ | ⟨kind, data, content, broken⟩)
    · exact .numeral writes tooLong
    · exact .depth deep
    · exact .timestamp content converted refused notOfValue
    · exact .bytes content broken

theorem innerDepth_eq_zero {v : Value} (noParts : v.parts = []) : v.innerDepth = 0 := by
  cases v with
  | list items =>
      cases noParts
      rfl
  | tuple items =>
      cases noParts
      rfl
  | map entries =>
      cases entries with
      | nil => rfl
      | cons entry entries => contradiction
  | _ => rfl

/-- No text of a content that is no integer and has no parts is an obstacle. -/
theorem obstacle_iff_of_parts_eq_nil (platform : Platform) {v : Value}
    (notInt : ∀ n, v.content ≠ int n) (noParts : v.content.parts = []) (failure : Failure) :
    v.Obstacle platform failure ↔
      (∃ t, v.content = .timestamp t ∧ t.isConverted platform.localOffset = true ∧
        failure.isOfValue = false ∧ ∃ isOther, v.remaking = .refused failure isOther) ∨
      ∃ kind data, v.content = .bytes kind data ∧ kind.failure? = some failure := by
  have short : ¬ v.WritesTooLong := by
    simp [writesTooLong_iff, showsTooLong_iff_of_ne_int notInt, noParts]
  have flat : ¬ platform.room < v.writtenDepth := by
    simp [writtenDepth, innerDepth_eq_zero noParts]
  simp only [obstacle_iff, short, flat, and_false, or_false, false_or]

/-- A value has no literal exactly if there is an obstacle, and what it fails by is due to one: the
literals that are not made from the text of the value belong to contents without integers and
without other texts inside. -/
theorem failsFor_literal (platform : Platform) (v : Value) :
    FailsFor (v.Obstacle platform) (v.literal platform) := by
  have textual (noTime : ∀ t, v.content ≠ .timestamp t)
      (noBytes : ∀ kind data, v.content ≠ .bytes kind data) :
      FailsFor (v.Obstacle platform) (v.display platform.room) := by
    refine FailsFor.congr (v.failsText_display platform.room) fun failure => ?_
    simp [obstacle_iff, noTime, noBytes]
  cases content : v.content with
  | bool _ | text _ =>
      have only := obstacle_iff_of_parts_eq_nil platform (v := v) (by simp [content])
        (by simp [content, parts])
      simp only [literal, content]
      exact .ok (by simp [only, content]) _
  | timestamp t =>
      have only := obstacle_iff_of_parts_eq_nil platform (v := v) (by simp [content])
        (by simp [content, parts])
      have fails := failsFor_timestampText platform.localOffset v.remaking t
      simp only [literal, content]
      exact (fails.map _).congr (by simp [only, content])
  | bytes kind data =>
      have only := obstacle_iff_of_parts_eq_nil platform (v := v) (by simp [content])
        (by simp [content, parts])
      simp only [literal, content]
      exact ((failsFor_base64Text kind data).map _).congr (by simp [only, content])
  -- Numbers are written bare or quoted.
  | int n =>
      simp only [literal, content]
      exact (textual (by simp [content]) (by simp [content])).ite_map (isNativeInteger n)
        Quoted.quote
  | double d =>
      simp only [literal, content]
      exact (textual (by simp [content]) (by simp [content])).ite_map d.isFinite Quoted.quote
  | decimal d =>
      simp only [literal, content]
      exact (textual (by simp [content]) (by simp [content])).ite_map d.isFinite Quoted.quote
  | null | date _ | clock _ | duration _ | uuid _ | list _ | tuple _ | map _ | foreign _ _
  | derived _ _ _ _ | member _ _ _ _ =>
      simp only [literal, content]
      exact (textual (by simp [content]) (by simp [content])).map Quoted.quote

/-- A value has a literal exactly if no integer whose numeral its text holds has more than 4300
digits, there is room for the texts inside its text, the class of a timestamp without an offset does
not refuse the converted one, other than as an impossible one, and the bytes of a view lie in one
piece. -/
theorem exists_literal_iff (platform : Platform) (v : Value) :
    (∃ text, v.literal platform = .ok text) ↔
      (∀ n, v.Writes n → (Numeral.digits n.natAbs).length ≤ 4300) ∧
      v.writtenDepth ≤ platform.room ∧
      (∀ t failure isOther, v.content = .timestamp t → t.isConverted platform.localOffset = true →
        v.remaking = .refused failure isOther → failure.isOfValue = true) ∧
      ∀ kind data, v.content = .bytes kind data → kind.failure? = none := by
  rw [(v.failsFor_literal platform).exists_eq_ok_iff]
  constructor
  · intro clear
    refine ⟨?_, ?_, ?_, ?_⟩
    · intro n writes
      by_contra tooLong
      exact clear _ (.numeral writes (Nat.lt_of_not_le tooLong))
    · by_contra deep
      exact clear _ (.depth (Nat.lt_of_not_le deep))
    · intro t failure isOther content converted refused
      by_contra notOfValue
      exact clear _ (.timestamp content converted refused (eq_false_of_ne_true notOfValue))
    · intro kind data content
      by_contra broken
      obtain ⟨failure, isFailure⟩ := Option.ne_none_iff_exists'.mp broken
      exact clear _ (.bytes content isFailure)
  · rintro ⟨short, flat, made, whole⟩ failure obstacle
    cases obstacle with
    | numeral writes tooLong => exact Nat.not_le_of_lt tooLong (short _ writes)
    | depth deep => exact Nat.not_le_of_lt deep flat
    | timestamp content converted refused notOfValue =>
        rw [made _ _ _ content converted refused] at notOfValue
        contradiction
    | bytes content broken =>
        rw [whole _ _ content] at broken
        contradiction

/-- The least integer that has more digits than the limit allows has no literal. -/
theorem exists_value_without_literal :
    ∃ v : Value, ∀ platform text, v.literal platform ≠ .ok text := by
  refine ⟨int (Nat.pow 10 Numeral.digitLimit : Nat), ?_⟩
  intro platform text written
  have short := ((exists_literal_iff platform _).mp ⟨text, written⟩).1 _ ⟨rfl, .int⟩
  have positive : 0 < Numeral.digitLimit := by decide
  rw [Int.natAbs_natCast] at short
  exact Nat.lt_irrefl _ ((Numeral.length_digits_le_iff _ _ positive).mp short)

end Value

end CypherText
