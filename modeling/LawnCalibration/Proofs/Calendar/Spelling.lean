import LawnCalibration.Proofs.Calendar.Days
import LawnCalibration.Proofs.Calendar.Timestamp
import LawnCalibration.Proofs.Text.Bytes

/-
The spellings of an instant.

One instant has many RFC 3339 texts: local clocks differ by their offsets, a
fraction may end in zeros or be left out, and some marks have a second form.
All of them are read as the instant, and writing it again gives its storage
form, which is one of the spellings and the same for all of them.
-/

set_option autoImplicit false

namespace LawnCalibration.Calendar.Timestamp

open Text

/-! ### Parts of a spelling -/

/-- Nanoseconds as a decimal fraction of a second; digits beyond the ninth do not count. -/
inductive IsFraction : Nat → List Char → Prop
  | none : IsFraction 0 []
  | digits {digits : List Char} (hDigits : ∀ c ∈ digits, c.isDigit = true) (hSome : digits ≠ []) :
      IsFraction (decimalValue digits * 10 ^ 9 / 10 ^ digits.length) ('.' :: digits)

inductive IsZone : Int → List Char → Prop
  | universal : IsZone 0 ['Z']
  | universalSmall : IsZone 0 ['z']
  | ahead {hours minutes : Nat} (hHours : hours < 24) (hMinutes : minutes < 60) :
      IsZone (60 * hours + minutes) ('+' :: fixedDigits 2 hours ++ ':' :: fixedDigits 2 minutes)
  | behind {hours minutes : Nat} (hHours : hours < 24) (hMinutes : minutes < 60) :
      IsZone (-(60 * hours + minutes)) ('-' :: fixedDigits 2 hours ++ ':' :: fixedDigits 2 minutes)

/-- An RFC 3339 text by its parts: what a local clock shows, and how far it is ahead. -/
structure Spelling where
  date : Date
  mark : Char
  hour : Nat
  minute : Nat
  second : Nat
  nanos : Nat
  fraction : List Char
  ahead : Int
  zone : List Char
  hasFourDigits : date.HasFourDigits
  isMark : mark = 'T' ∨ mark = 't' ∨ mark = ' '
  hour_lt : hour < 24
  minute_lt : minute < 60
  second_le : second ≤ 60
  isFraction : IsFraction nanos fraction
  isZone : IsZone ahead zone

namespace Spelling

def chars (spelling : Spelling) : List Char :=
  fixedDigits 4 spelling.date.year.toNat ++ '-' :: (fixedDigits 2 spelling.date.month ++ '-' ::
    (fixedDigits 2 spelling.date.day ++ spelling.mark :: (fixedDigits 2 spelling.hour ++ ':' ::
    (fixedDigits 2 spelling.minute ++ ':' :: (fixedDigits 2 spelling.second ++
    (spelling.fraction ++ spelling.zone))))))

def text (spelling : Spelling) : String :=
  String.ofList spelling.chars

/-- The seconds that the local clock has counted; a leap second counts as the one before. -/
def localSeconds (spelling : Spelling) : Int :=
  secondsPerDay * spelling.date.number + 3600 * spelling.hour + 60 * spelling.minute +
    min spelling.second 59

/-- The instant at which the local clock shows what the text says. -/
def Denotes (spelling : Spelling) (instant : Instant) : Prop :=
  instant.seconds = spelling.localSeconds - 60 * spelling.ahead ∧
    instant.nano = spelling.nanos + nanosPerSecond * (spelling.second / 60)

end Spelling

/-- What the first nine digits count is what all digits count, rounded down. -/
private theorem scaled_take_nine {digits : List Char} (hDigits : ∀ c ∈ digits, c.isDigit = true) :
    decimalValue (digits.take 9) * Nat.pow 10 (9 - (digits.take 9).length) =
      decimalValue digits * 10 ^ 9 / 10 ^ digits.length := by
  by_cases hShort : digits.length ≤ 9
  · have hPower : 10 ^ 9 = 10 ^ (9 - digits.length) * 10 ^ digits.length := by
      rw [← Nat.pow_add, Nat.sub_add_cancel hShort]
    rw [List.take_of_length_le hShort, hPower, ← Nat.mul_assoc,
      Nat.mul_div_cancel _ (Nat.pow_pos (by decide))]
    rfl
  · have hTaken : (digits.take 9).length = 9 := List.length_take_of_le (by omega)
    have hValue := decimalValue_append (digits.take 9) (digits.drop 9)
    rw [List.take_append_drop] at hValue
    have hDropped : decimalValue (digits.drop 9) < 10 ^ (digits.drop 9).length :=
      decimalValue_lt fun c hMember => hDigits c (List.mem_of_mem_drop hMember)
    have hLength : digits.length = (digits.drop 9).length + 9 := by
      rw [List.length_drop]
      omega
    rw [hTaken, hValue, hLength, Nat.pow_add, Nat.mul_div_mul_right _ _ (by decide),
      Nat.add_comm, Nat.add_mul_div_right _ _ (Nat.pow_pos (by decide)),
      Nat.div_eq_of_lt hDropped, Nat.zero_add]
    exact Nat.mul_one _

theorem IsFraction.lt {nanos : Nat} {fraction : List Char} (hFraction : IsFraction nanos fraction) :
    nanos < nanosPerSecond := by
  cases hFraction with
  | none => decide
  | @digits digits hDigits hSome =>
      refine Nat.div_lt_of_lt_mul ?_
      exact Nat.mul_lt_mul_of_pos_right (decimalValue_lt hDigits) (by decide)

private theorem isFraction_fixedDigits {n : Nat} (hBound : n < 10 ^ 9) :
    IsFraction n ('.' :: fixedDigits 9 n) := by
  have hSome : fixedDigits 9 n ≠ [] := fixedDigits_ne_nil (by decide) n
  have hFraction := IsFraction.digits (fun _ => isDigit_of_mem_fixedDigits) hSome
  rwa [fixedDigits_length, decimalValue_fixedDigits_of_lt hBound,
    Nat.mul_div_cancel _ (by decide)] at hFraction

private theorem readOptionalFraction_spelling {nanos : Nat} {fraction rest : List Char}
    (hFraction : IsFraction nanos fraction)
    (hRest : ∀ c, rest.head? = some c → c.isDigit = false ∧ c ≠ '.') :
    readOptionalFraction (fraction ++ rest) = .ok (nanos, rest) := by
  cases hFraction with
  | none =>
      rw [List.nil_append]
      unfold readOptionalFraction
      split
      · exact absurd rfl (hRest '.' rfl).2
      · rfl
  | @digits digits hDigits hSome =>
      change readFraction (digits ++ rest) = _
      rw [readFraction_run hDigits hSome fun c hHead => (hRest c hHead).1, scaled_take_nine hDigits]

private theorem readOffsetDigits_fixedDigits {limit n : Nat} (hLimit : limit ≤ 10)
    (hBound : n < 10 * limit)
    (rest : List Char) : readOffsetDigits limit (fixedDigits 2 n ++ rest) = .ok (n, rest) := by
  have hTens : digitValue (digitChar (n / 10)) = n / 10 := by
    rw [digitValue_digitChar, Nat.mod_eq_of_lt (by omega)]
  have hSmall : n / 10 < limit := by omega
  change readOffsetDigits limit (digitChar (n / 10) :: digitChar n :: rest) = _
  simp only [readOffsetDigits, isDigit_digitChar, Bool.and_self, if_true, hTens, if_pos hSmall,
    digitValue_digitChar]
  rw [Nat.div_add_mod]

private theorem readOffset_zone {ahead : Int} {zone : List Char} (hZone : IsZone ahead zone) :
    readOffset (readSymbol (· == ':')) zone = .ok (ahead, []) := by
  cases hZone with
  | universal => rfl
  | universalSmall => rfl
  | @ahead hours minutes hHours hMinutes =>
      have hHour := readOffsetDigits_fixedDigits (Nat.le_refl 10) (by omega : hours < 100)
        (':' :: fixedDigits 2 minutes)
      have hMinute := readOffsetDigits_fixedDigits (by decide : 6 ≤ 10) hMinutes []
      rw [List.append_nil] at hMinute
      have hSign : ∀ digits, readOffsetSign ('+' :: digits) = .ok (1, digits) := fun _ => rfl
      simp only [readOffset, List.cons_append, hSign, bind, Except.bind, hHour, readSymbol_colon,
        hMinute, Int.one_mul]
      rfl
  | @behind hours minutes hHours hMinutes =>
      have hHour := readOffsetDigits_fixedDigits (Nat.le_refl 10) (by omega : hours < 100)
        (':' :: fixedDigits 2 minutes)
      have hMinute := readOffsetDigits_fixedDigits (by decide : 6 ≤ 10) hMinutes []
      rw [List.append_nil] at hMinute
      have hSign : ∀ digits, readOffsetSign ('-' :: digits) = .ok (-1, digits) := fun _ => rfl
      simp only [readOffset, List.cons_append, hSign, bind, Except.bind, hHour, readSymbol_colon,
        hMinute, Int.neg_one_mul]
      rfl

theorem IsZone.bounds {ahead : Int} {zone : List Char} (hZone : IsZone ahead zone) :
    -1440 < ahead ∧ ahead < 1440 := by
  cases hZone with
  | universal => decide
  | universalSmall => decide
  | ahead hHours hMinutes => omega
  | behind hHours hMinutes => omega

theorem IsZone.head {ahead : Int} {zone : List Char} (hZone : IsZone ahead zone) :
    ∀ c, zone.head? = some c → c.isDigit = false ∧ c ≠ '.' := by
  cases hZone with
  | universal => rintro c ⟨⟩; decide
  | universalSmall => rintro c ⟨⟩; decide
  | ahead hHours hMinutes => rintro c ⟨⟩; decide
  | behind hHours hMinutes => rintro c ⟨⟩; decide

namespace Spelling

variable {spelling : Spelling} {instant : Instant}

/-! ### Reading -/

/-- What the local clock shows, as an instant of the clock's own time. -/
private theorem exists_shown (spelling : Spelling) :
    ∃ shown, Instant.ofClock? spelling.date spelling.hour spelling.minute spelling.second
        spelling.nanos = some shown ∧ shown.date = spelling.date ∧
      shown.seconds = spelling.localSeconds ∧
      shown.nano = spelling.nanos + nanosPerSecond * (spelling.second / 60) := by
  have hSecond := spelling.second_le
  have hClock : spelling.hour < 24 ∧ spelling.minute < 60 ∧ spelling.second ≤ 60 ∧
      spelling.nanos < nanosPerSecond :=
    ⟨spelling.hour_lt, spelling.minute_lt, hSecond, spelling.isFraction.lt⟩
  unfold Instant.ofClock?
  rw [dif_pos hClock]
  by_cases hLeap : spelling.second = 60
  · rw [dif_pos hLeap]
    refine ⟨_, rfl, rfl, ?_, ?_⟩
    · simp only [Instant.seconds, localSeconds, hLeap]
      omega
    · simp only [hLeap]
      omega
  · rw [dif_neg hLeap]
    refine ⟨_, rfl, rfl, ?_, ?_⟩
    · simp only [Instant.seconds, localSeconds]
      omega
    · have hOrdinary : spelling.second / 60 = 0 := Nat.div_eq_of_lt (by omega)
      simp only [hOrdinary]
      omega

private theorem isDateEnd_mark (spelling : Spelling) : isDateEnd spelling.mark = true := by
  rcases spelling.isMark with hMark | hMark | hMark <;> rw [hMark] <;> rfl

private theorem le_length_chars (spelling : Spelling) : 19 ≤ spelling.chars.length := by
  simp only [chars, List.length_append, List.length_cons, fixedDigits_length]
  omega

/-- A spelling denotes one instant, and it is read as that instant. -/
theorem exists_read_text (spelling : Spelling) :
    ∃ instant, read spelling.text = .ok instant ∧
      ∀ other, spelling.Denotes other ↔ other = instant := by
  obtain ⟨shown, hShown, hDate, hSeconds, hNano⟩ := spelling.exists_shown
  have hOffset := spelling.isZone.bounds
  have hInside := spelling.hasFourDigits
  rw [← hDate] at hInside
  have hInstant := Instant.exists_ofLocal? shown ⟨spelling.ahead, hOffset.1, hOffset.2⟩
    ⟨Int.lt_of_lt_of_le (by decide) hInside.1, Int.lt_of_le_of_lt hInside.2 (by decide)⟩
  obtain ⟨instant, hInstant⟩ := hInstant
  obtain ⟨hMoved, hKept⟩ := Instant.seconds_ofLocal? hInstant
  refine ⟨instant, ?_, fun other => ⟨?_, ?_⟩⟩
  · have hLocal : readLocal spelling.chars = .ok (shown, spelling.zone) :=
      readLocal_fields spelling.hasFourDigits spelling.isDateEnd_mark
        (readOptionalFraction_spelling spelling.isFraction spelling.isZone.head) hShown
    have hLength : ¬ byteLength spelling.chars < 19 := by
      have hChars := spelling.le_length_chars
      have hBytes := length_le_byteLength spelling.chars
      omega
    have hToOffset : toOffset spelling.ahead = .ok ⟨spelling.ahead, hOffset.1, hOffset.2⟩ := by
      unfold toOffset Instant.Offset.ofMinutes?
      rw [dif_pos hOffset]
    unfold read readChars text
    rw [String.toList_ofList, if_neg hLength, hLocal]
    simp only [bind, Except.bind, readOffset_zone spelling.isZone, readEnd, if_true, hToOffset,
      hInstant]
    rfl
  · rintro ⟨hOther, hOtherNano⟩
    exact Instant.eq_of_seconds_eq (by rw [hOther, hMoved, hSeconds]) (by rw [hOtherNano, hKept, hNano])
  · rintro rfl
    exact ⟨by rw [hMoved, hSeconds], by rw [hKept, hNano]⟩

theorem read_text_of_denotes (hDenotes : spelling.Denotes instant) :
    read spelling.text = .ok instant := by
  obtain ⟨found, hRead, hOnly⟩ := spelling.exists_read_text
  rw [hRead, (hOnly instant).1 hDenotes]

def ofInstant (instant : Instant) (hYear : instant.date.HasFourDigits) : Spelling where
  date := instant.date
  mark := 'T'
  hour := instant.hour
  minute := instant.minute
  second := instant.clockSecond
  nanos := instant.fraction
  fraction := '.' :: fixedDigits 9 instant.fraction
  ahead := 0
  zone := ['Z']
  hasFourDigits := hYear
  isMark := .inl rfl
  hour_lt := instant.clock_bounds.1
  minute_lt := instant.clock_bounds.2.1
  second_le := instant.clock_bounds.2.2.1
  isFraction := isFraction_fixedDigits instant.clock_bounds.2.2.2
  isZone := .universal

theorem text_ofInstant (hYear : instant.date.HasFourDigits) :
    (ofInstant instant hYear).text = Timestamp.text instant := by
  unfold text Timestamp.text
  rw [chars_eq hYear]
  rfl

theorem denotes_ofInstant (hYear : instant.date.HasFourDigits) :
    (ofInstant instant hYear).Denotes instant := by
  have hLeap := instant.leap
  have hNano := instant.nano_lt
  simp only [Denotes, localSeconds, ofInstant, Instant.seconds, Instant.hour, Instant.minute,
    Instant.clockSecond, Instant.fraction, secondsPerDay, nanosPerSecond] at *
  omega

end Spelling

private theorem isAscii_of_isDigit {c : Char} (hDigit : c.isDigit = true) : IsAscii c := by
  have hBounds := Bool.and_eq_true_iff.1 hDigit
  have hLast : c.toNat ≤ 57 := of_decide_eq_true hBounds.2
  exact Nat.lt_of_le_of_lt hLast (by decide)

private theorem isAscii_chars {instant : Instant} (hYear : instant.date.HasFourDigits) :
    ∀ c ∈ chars instant, IsAscii c := by
  have hDigits : ∀ width n, ∀ c ∈ fixedDigits width n, IsAscii c :=
    fun _ _ _ hMember => isAscii_of_isDigit (isDigit_of_mem_fixedDigits hMember)
  have hMarks : IsAscii '-' ∧ IsAscii 'T' ∧ IsAscii ':' ∧ IsAscii '.' ∧ IsAscii 'Z' := by
    unfold IsAscii
    decide
  simp only [chars_eq hYear, List.forall_mem_append, List.forall_mem_cons, hMarks, true_and]
  exact ⟨hDigits _ _, hDigits _ _, hDigits _ _, hDigits _ _, hDigits _ _, hDigits _ _,
    hDigits _ _, List.forall_mem_nil _⟩

theorem bytes_text {instant : Instant} (hYear : instant.date.HasFourDigits) :
    bytes (text instant) = (chars instant).map Char.toUInt8 :=
  bytes_ofList (isAscii_chars hYear)

/-- The storage form has thirty ASCII bytes, is read back as its instant and stands among such
forms where its instant stands.  Whatever text spells an instant is read as it, so that writing
what was read gives one text, itself a spelling, for all spellings of the instant. -/
theorem storage_form_canonical :
    (∀ instant : Instant, instant.date.HasFourDigits →
      (bytes (text instant)).length = 30 ∧ (∀ byte ∈ bytes (text instant), byte < 128) ∧
        read (text instant) = .ok instant) ∧
    (∀ a b : Instant, a.date.HasFourDigits → b.date.HasFourDigits →
      (bytes (text a) < bytes (text b) ↔ a < b)) ∧
    (∀ spelling : Spelling, ∃ instant, read spelling.text = .ok instant ∧
      (∀ other, spelling.Denotes other ↔ other = instant) ∧
      (instant.date.HasFourDigits →
        ∃ form : Spelling, form.text = text instant ∧ form.Denotes instant)) ∧
    ∀ (first second : Spelling) (a b : Instant), first.Denotes a → second.Denotes b →
      a.date.HasFourDigits → b.date.HasFourDigits →
      ((read first.text).map text = (read second.text).map text ↔ a = b) := by
  refine ⟨fun instant hYear => ⟨?_, ?_, read_text hYear⟩, fun a b hYearA hYearB => ?_,
    fun spelling => ?_, fun first second a b hFirst hSecond hYearA hYearB => ?_⟩
  · rw [bytes_text hYear, List.length_map, chars_eq hYear]
    simp only [List.length_append, List.length_cons, List.length_nil, fixedDigits_length]
  · rw [bytes_text hYear]
    exact forall_mem_map_toUInt8 (isAscii_chars hYear)
  · rw [← text_lt_text_iff hYearA hYearB]
    exact bytes_lt_iff (isAscii_chars hYearA) (isAscii_chars hYearB)
  · obtain ⟨instant, hRead, hOnly⟩ := spelling.exists_read_text
    exact ⟨instant, hRead, hOnly, fun hYear =>
      ⟨.ofInstant instant hYear, Spelling.text_ofInstant hYear, Spelling.denotes_ofInstant hYear⟩⟩
  · rw [Spelling.read_text_of_denotes hFirst, Spelling.read_text_of_denotes hSecond]
    constructor
    · intro hTexts
      have hTexts : text a = text b := Except.ok.inj hTexts
      have hRead := read_text hYearA
      rw [hTexts, read_text hYearB] at hRead
      exact (Except.ok.inj hRead).symm
    · rintro rfl
      rfl

/-! ### A leap second on two clocks -/

def leapSecond : Instant where
  date := ⟨2015, 6, 30, by decide⟩
  second := 24 * 60 * 60 - 1
  nano := 1250000000
  second_lt := by decide
  nano_lt := by decide
  leap := by decide

/-- A clock ahead of coordinated universal time, with more digits than count. -/
def leapSecondInTheEast : Spelling where
  date := ⟨2015, 7, 1, by decide⟩
  mark := 't'
  hour := 5
  minute := 29
  second := 60
  nanos := 250000000
  fraction := ['.', '2', '5', '0', '0', '0', '0', '0', '0', '0', '9']
  ahead := 330
  zone := "+05:30".toList
  hasFourDigits := by decide
  isMark := .inr (.inl rfl)
  hour_lt := by decide
  minute_lt := by decide
  second_le := by decide
  isFraction :=
    @IsFraction.digits ['2', '5', '0', '0', '0', '0', '0', '0', '0', '9'] (List.all_eq_true.1 rfl)
      (List.cons_ne_nil _ _)
  isZone := IsZone.ahead (by decide : 5 < 24) (by decide : 30 < 60)

/-- A clock behind coordinated universal time, on the day before. -/
def leapSecondInTheWest : Spelling where
  date := ⟨2015, 6, 30, by decide⟩
  mark := ' '
  hour := 15
  minute := 59
  second := 60
  nanos := 250000000
  fraction := ['.', '2', '5']
  ahead := -480
  zone := "-08:00".toList
  hasFourDigits := by decide
  isMark := .inr (.inr rfl)
  hour_lt := by decide
  minute_lt := by decide
  second_le := by decide
  isFraction := @IsFraction.digits ['2', '5'] (List.all_eq_true.1 rfl) (List.cons_ne_nil _ _)
  isZone := IsZone.behind (by decide : 8 < 24) (by decide : 0 < 60)

theorem leapSecond_has_one_storage_form :
    leapSecondInTheEast.text = "2015-07-01t05:29:60.2500000009+05:30" ∧
      leapSecondInTheWest.text = "2015-06-30 15:59:60.25-08:00" ∧
      text leapSecond = "2015-06-30T23:59:60.250000000Z" ∧
      read (text leapSecond) = .ok leapSecond ∧
      bytes (text leapSecond) < bytes (text (Instant.startOfDay leapSecondInTheEast.date)) ∧
      (read leapSecondInTheEast.text).map text = (read leapSecondInTheWest.text).map text := by
  obtain ⟨hForms, hOrder, -, hSpellings⟩ := storage_form_canonical
  have hEast : leapSecondInTheEast.Denotes leapSecond := ⟨by decide, by decide⟩
  have hWest : leapSecondInTheWest.Denotes leapSecond := ⟨by decide, by decide⟩
  have hYear : leapSecond.date.HasFourDigits := by decide
  have hNextYear : leapSecondInTheEast.date.HasFourDigits := by decide
  refine ⟨by decide +kernel, by decide +kernel, by decide +kernel, (hForms _ hYear).2.2, ?_, ?_⟩
  · exact (hOrder _ (Instant.startOfDay _) hYear hNextYear).2 (by decide)
  · exact (hSpellings _ _ _ _ hEast hWest hYear hYear).2 rfl

end LawnCalibration.Calendar.Timestamp
