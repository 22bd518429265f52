/-
Date-times as they are written, and what `ParseIso8601Time` and `NormalizeTimestampTime` make of
them.

* `parseIso8601Time_chars` — a date-time is read as it stands, but for the minutes of an offset
  that has no colon;
* `parseIso8601Time_exact_iff` — the texts for which an accepted time is the exact instant;
* `timegm_lt_iff` — `timegm` keeps the order of the calendar;
* `normalizeTimestampTime_exact` — the time of a token is normalised exactly.
-/
import Tamga.SigningMoment

namespace Tamga.IsoTime

open Validation List

/-- A run of `n` digits. -/
structure Digits (n : Nat) where
  chars : List Char
  length_eq : chars.length = n
  all_digits : ∀ c ∈ chars, isDigit c = true

def Digits.value {n : Nat} (ds : Digits n) : Int :=
  ds.chars.foldl (fun value c => value * 10 + (digitValue c : Int)) 0

/-- The digits of a date-time. -/
structure DateText where
  year : Digits 4
  month : Digits 2
  day : Digits 2
  hour : Digits 2
  minute : Digits 2
  second : Digits 2

/-- What may follow the seconds: nothing, `Z`, or an offset with or without a colon. -/
inductive Zone
  | absent
  | utc
  | offset (west colon : Bool) (hours minutes : Digits 2)

namespace Zone

def chars : Zone → List Char
  | absent => []
  | utc => ['Z']
  | offset west colon hours minutes =>
    (if west then '-' else '+') :: (hours.chars ++ ((if colon then [':'] else []) ++ minutes.chars))

def seconds : Zone → Int
  | offset west _ hours minutes =>
    (if west then -1 else 1) * (hours.value * 3600 + minutes.value * 60)
  | _ => 0

/-- The hours and the minutes of an offset are those of a time of day. -/
def Valid : Zone → Prop
  | offset _ _ hours minutes => hours.value ≤ 23 ∧ minutes.value ≤ 59
  | _ => True

/-- The seconds that are read: the minutes are looked for behind a colon only. -/
def readSeconds : Zone → Int
  | offset west colon hours minutes =>
    (if west then -1 else 1) * (hours.value * 3600 + (if colon then minutes.value else 0) * 60)
  | _ => 0

end Zone

namespace DateText

variable (d : DateText)

def civil : Civil :=
  ⟨d.year.value, d.month.value, d.day.value, d.hour.value, d.minute.value, d.second.value⟩

def dateChars : List Char := d.year.chars ++ '-' :: (d.month.chars ++ '-' :: d.day.chars)

def timeChars : List Char := d.hour.chars ++ ':' :: (d.minute.chars ++ ':' :: d.second.chars)

def chars (zone : Zone) : List Char := d.dateChars ++ 'T' :: (d.timeChars ++ zone.chars)

end DateText

/-- A date of the Gregorian calendar and a time of day. -/
structure Civil.Valid (c : Civil) : Prop where
  month : 1 ≤ c.month ∧ c.month ≤ 12
  day : 1 ≤ c.day ∧ c.day ≤ daysInMonth c.year c.month
  hour : c.hour ≤ 23
  minute : c.minute ≤ 59
  second : c.second ≤ 59

/-! ### What is read -/

theorem ne_of_isDigit {c x : Char} (h : isDigit c = true) (hx : isDigit x = false) : c ≠ x := by
  rintro rfl
  rw [hx] at h
  cases h

theorem scanInt_digits {n : Nat} (ds : Digits (n + 1)) (rest : List Char) :
    scanInt (n + 1) (ds.chars ++ rest) = some (ds.value, rest) := by
  obtain ⟨chars, hlength, hdigits⟩ := ds
  cases chars with
  | nil => cases hlength
  | cons c cs =>
    have hc := hdigits c mem_cons_self
    have hspace : isSpace c = false := by
      by_contra h
      simp only [isSpace, Bool.not_eq_false, Bool.or_eq_true, beq_iff_eq] at h
      rcases h with ((((h | h) | h) | h) | h) | h <;> exact ne_of_isDigit hc (by decide) h
    have htake : (c :: cs ++ rest).take (n + 1) = c :: cs := take_left' hlength
    have hdrop : (c :: cs ++ rest).drop (n + 1) = rest := drop_left' hlength
    have hrun : (c :: cs).takeWhile isDigit = c :: cs := by
      simpa using @takeWhile_append_of_pos _ isDigit (c :: cs) [] hdigits
    rw [scanInt, cons_append, dropWhile_cons_of_neg (by simp [hspace])]
    split
    next heq => exact absurd (List.cons.inj heq).1 (ne_of_isDigit hc (by decide))
    next heq => exact absurd (List.cons.inj heq).1 (ne_of_isDigit hc (by decide))
    · rw [← cons_append, htake, hrun, if_neg (cons_ne_nil _ _), hlength, hdrop]
      rfl

theorem scanCivil_chars (d : DateText) (rest : List Char) :
    scanCivil (d.dateChars ++ 'T' :: (d.timeChars ++ rest)) = some (d.civil, rest.head?) := by
  simp [scanCivil, DateText.dateChars, DateText.timeChars, scanInt_digits, scanChar, DateText.civil]

theorem mem_joined {n : Nat} {a : Digits n} {b c : Digits 2} {sep x : Char}
    (h : x ∈ a.chars ++ sep :: (b.chars ++ sep :: c.chars)) : isDigit x = true ∨ x = sep := by
  grind [Digits.all_digits]

theorem Zone.mem_chars {zone : Zone} {x : Char} (h : x ∈ zone.chars) :
    isDigit x = true ∨ x ∈ ['-', '+', ':', 'Z'] := by
  cases zone with
  | absent => cases h
  | utc => grind [Zone.chars]
  | offset west colon hours minutes => grind [Zone.chars, Digits.all_digits]

theorem cStr_eq {s : List Char} (h : '\x00' ∉ s) : cStr s = s := by
  have hall := @takeWhile_append_of_pos _ (fun c => decide (c ≠ '\x00')) s []
    fun c hc => decide_eq_true (ne_of_mem_of_not_mem hc h)
  simpa [cStr] using hall

theorem zoneCorrection_chars (d : DateText) (west colon : Bool) (hours minutes : Digits 2) :
    zoneCorrection (d.chars (.offset west colon hours minutes)) =
      -(Zone.offset west colon hours minutes).readSeconds := by
  have hdate : 'T' ∉ d.dateChars := fun h => absurd (mem_joined h) (by decide)
  have htime : '+' ∉ d.timeChars ∧ '-' ∉ d.timeChars :=
    ⟨fun h => absurd (mem_joined h) (by decide), fun h => absurd (mem_joined h) (by decide)⟩
  have hoffset : scanOffset (cStr (hours.chars ++ ((if colon then [':'] else []) ++
      minutes.chars))) = some (hours.value * 3600 + (if colon then minutes.value else 0) * 60) := by
    rw [cStr_eq fun h => absurd (@Zone.mem_chars (.offset west colon hours minutes) _
      (mem_cons_of_mem _ h)) (by decide), scanOffset, scanInt_digits]
    cases colon with
    | true =>
      have hminutes := scanInt_digits minutes []
      rw [append_nil] at hminutes
      simp [scanChar, hminutes]
    | false =>
      -- the next character is a digit, not a colon
      obtain ⟨chars, hlength, hdigits⟩ := minutes
      cases chars with
      | nil => cases hlength
      | cons c cs =>
        have hcolon : c ≠ ':' := ne_of_isDigit (hdigits c mem_cons_self) (by decide)
        simp [scanChar, hcolon]
  rw [zoneCorrection, DateText.chars, dropWhile_append_of_pos (by grind),
    dropWhile_cons_of_neg (by decide), tail_cons, dropWhile_append_of_pos
      fun c hc => by simp [ne_of_mem_of_not_mem hc htime.1, ne_of_mem_of_not_mem hc htime.2]]
  cases west <;> simp [Zone.chars, Zone.readSeconds, hoffset]

theorem parseIso8601Time_chars {text : String} {d : DateText} {zone : Zone}
    (h : text.toList = d.chars zone) : parseIso8601Time text =
      if timegm d.civil = -1 then none else some (timegm d.civil - zone.readSeconds) := by
  have hnul : '\x00' ∉ d.chars zone := by
    simp only [DateText.chars, mem_append, mem_cons, not_or]
    exact ⟨fun h => absurd (mem_joined h) (by decide), by decide,
      fun h => absurd (mem_joined h) (by decide), fun h => absurd (Zone.mem_chars h) (by decide)⟩
  rw [parseIso8601Time, h, cStr_eq hnul, DateText.chars, scanCivil_chars]
  refine ite_congr rfl (fun _ => rfl) fun _ => ?_
  cases zone with
  | absent | utc => simp [Zone.chars, Zone.readSeconds]
  | offset west colon hours minutes =>
    rw [← DateText.chars, zoneCorrection_chars]
    cases west <;> rfl

theorem parseIso8601Time_isSome (text : String) : (∃ t, parseIso8601Time text = some t) ↔
    ∃ c z, scanCivil (cStr text.toList) = some (c, z) ∧ timegm c ≠ -1 := by
  rw [parseIso8601Time]
  cases hscan : scanCivil (cStr text.toList) with
  | none => simp
  | some r =>
    obtain ⟨c, z⟩ := r
    by_cases h : timegm c = -1
    · simp [h]
    · cases z <;> simp [h]
      split <;> simp

/-! ### Exact times -/

/-- The text is a date-time of the calendar and denotes the instant. -/
def Denotes (text : String) (t : Int) : Prop :=
  ∃ d : DateText, ∃ zone : Zone, text.toList = d.chars zone ∧ d.civil.Valid ∧ zone.Valid ∧
    t = timegm d.civil - zone.seconds

/-- **Accepted times are exact** exactly for the texts that `sscanf` does not read, and for the
date-times of the calendar whose offset is at most `23:59` and, if it has no colon, has no
minutes. -/
theorem parseIso8601Time_exact_iff (text : String) :
    (∀ t, parseIso8601Time text = some t → Denotes text t) ↔
      ((∃ c z, scanCivil (cStr text.toList) = some (c, z) ∧ timegm c ≠ -1) →
        ∃ d : DateText, ∃ zone : Zone, text.toList = d.chars zone ∧ d.civil.Valid ∧
          zone.Valid ∧ ∀ west hours minutes,
            zone = .offset west false hours minutes → minutes.value = 0) := by
  have hread : ∀ {d : DateText} {zone : Zone} {t : Int}, text.toList = d.chars zone →
      parseIso8601Time text = some t → timegm d.civil - zone.readSeconds = t := by
    intro d zone t htext ht
    rw [parseIso8601Time_chars htext] at ht
    exact Option.some.inj (Option.ite_none_left_eq_some.mp ht).2
  rw [← parseIso8601Time_isSome]
  constructor
  · rintro h ⟨t, ht⟩
    obtain ⟨d, zone, htext, hvalid, hzone, rfl⟩ := h t ht
    refine ⟨d, zone, htext, hvalid, hzone, ?_⟩
    rintro west hours minutes rfl
    have hsame := hread htext ht
    cases west <;> simp [Zone.seconds, Zone.readSeconds] at hsame <;> omega
  · intro h t ht
    obtain ⟨d, zone, htext, hvalid, hzone, hminutes⟩ := h ⟨t, ht⟩
    refine ⟨d, zone, htext, hvalid, hzone, (hread htext ht).symm.trans ?_⟩
    cases zone with
    | absent => rfl
    | utc => rfl
    | offset west colon hours minutes =>
      cases colon with
      | true => rfl
      | false => simp [Zone.seconds, Zone.readSeconds, hminutes west hours minutes rfl]

/-- A month 13 is accepted, and the minutes of an offset without a colon are lost. -/
theorem month_carried_and_minutes_lost :
    (∃ t, parseIso8601Time "2024-13-01T00:00:00Z" = some t ∧ ¬ Denotes "2024-13-01T00:00:00Z" t) ∧
      parseIso8601Time "2024-01-01T00:00:00+0130" =
        parseIso8601Time "2024-01-01T00:00:00+01:00" := by
  refine ⟨⟨_, rfl, ?_⟩, by decide⟩
  rintro ⟨d, zone, htext, hvalid, -⟩
  have hscan := scanCivil_chars d zone.chars
  rw [← DateText.chars, ← htext] at hscan
  have hmonth := hvalid.month.2
  rw [← (Prod.mk.inj (Option.some.inj hscan)).1] at hmonth
  exact absurd hmonth (by decide)

/-! ### The order of times -/

def Civil.fields (c : Civil) : List Int := [c.year, c.month, c.day, c.hour, c.minute, c.second]

/-- The days of a year before a month, which `timegm` counts from 0. -/
def dayOfYear (year mon : Int) : Int :=
  daysBeforeMonth mon + if isLeap year && decide (2 ≤ mon) then 1 else 0

theorem daysBeforeYear_le {y y' : Int} (h : y < y') :
    daysBeforeYear y + 365 + (if isLeap y then 1 else 0) ≤ daysBeforeYear y' := by
  simp only [daysBeforeYear, isLeap, Bool.and_eq_true, Bool.or_eq_true, beq_iff_eq, bne_iff_ne]
  split <;> omega

theorem dayOfYear_le (year : Int) : ∀ m < 12, ∀ m' < 12, 0 ≤ dayOfYear year (m : Nat) ∧
    dayOfYear year m + daysInMonth year (m + 1) ≤ 365 + (if isLeap year then 1 else 0) ∧
    (m < m' → dayOfYear year m + daysInMonth year (m + 1) ≤ dayOfYear year (m' : Nat)) := by
  simp only [dayOfYear, daysInMonth]
  generalize isLeap year = leap
  revert leap
  decide

theorem Digits.value_nonneg {n : Nat} (ds : Digits n) : 0 ≤ ds.value :=
  List.foldlRecOn ds.chars _ (Int.le_refl _) fun v hv c _ => by omega

/-- The second of a valid date-time, by the day of its year and the second of its day. -/
theorem timegm_eq {d : DateText} (h : d.civil.Valid) : ∃ m : Nat, d.civil.month = m + 1 ∧ m < 12 ∧
    0 ≤ d.civil.hour ∧ 0 ≤ d.civil.minute ∧ 0 ≤ d.civil.second ∧ timegm d.civil =
      (daysBeforeYear d.civil.year + dayOfYear d.civil.year m + (d.civil.day - 1)) * 86400 +
        (d.civil.hour * 3600 + d.civil.minute * 60 + d.civil.second) := by
  obtain ⟨hlow, hhigh⟩ := h.month
  refine ⟨(d.civil.month - 1).toNat, by omega, by omega, d.hour.value_nonneg,
    d.minute.value_nonneg, d.second.value_nonneg, ?_⟩
  rw [timegm, Int.toNat_of_nonneg (by omega), Int.ediv_eq_zero_of_lt (by omega) (by omega),
    Int.emod_eq_of_lt (by omega) (by omega), Int.add_zero, dayOfYear]
  omega

theorem timegm_nonneg {d : DateText} (hyear : 1970 ≤ d.civil.year) (h : d.civil.Valid) :
    0 ≤ timegm d.civil := by
  obtain ⟨m, -, hm, hhour, hminute, hsecond, ht⟩ := timegm_eq h
  have hmonth := (dayOfYear_le d.civil.year m hm m hm).1
  have hday := h.day.1
  rw [ht, daysBeforeYear]
  omega

/-- **`timegm` keeps the order of the calendar.** -/
theorem timegm_lt_iff {d d' : DateText} (h : d.civil.Valid) (h' : d'.civil.Valid) :
    timegm d.civil < timegm d'.civil ↔ d.civil.fields < d'.civil.fields := by
  obtain ⟨m, hm, hlt, hhour, hminute, hsecond, ht⟩ := timegm_eq h
  obtain ⟨m', hm', hlt', hhour', hminute', hsecond', ht'⟩ := timegm_eq h'
  obtain ⟨-, hday, hhour₁, hminute₁, hsecond₁⟩ := h
  obtain ⟨-, hday', hhour₁', hminute₁', hsecond₁'⟩ := h'
  have hmonth := dayOfYear_le d.civil.year m hlt m' hlt'
  have hmonth' := dayOfYear_le d'.civil.year m' hlt' m hlt
  simp only [Civil.fields, cons_lt_cons_iff, not_lt_nil, and_false, or_false, ht, ht']
  rw [hm] at hday ⊢
  rw [hm'] at hday' ⊢
  rcases Int.lt_trichotomy d.civil.year d'.civil.year with hy | hy | hy
  · have hyear := daysBeforeYear_le hy
    omega
  · rw [← hy] at hmonth' hday' ⊢
    rcases Nat.lt_trichotomy m m' with hmm | rfl | hmm <;> omega
  · have hyear := daysBeforeYear_le hy
    omega

/-! ### The time of a token -/

/-- A UTC `GeneralizedTime` with an optional fraction. -/
structure GeneralizedTime extends DateText where
  fraction : Option (Σ n, Digits (n + 1))

def DateText.compact (d : DateText) (rest : List Char) : List Char :=
  d.year.chars ++ (d.month.chars ++ (d.day.chars ++ (d.hour.chars ++ (d.minute.chars ++
    (d.second.chars ++ rest)))))

def GeneralizedTime.ending (fraction : Option (Σ n, Digits (n + 1))) : List Char :=
  fraction.elim [] (fun digits => '.' :: digits.2.chars) ++ ['Z']

/-- The text is the time, not too long, and a date-time of the calendar since 1970. -/
structure GeneralizedTime.Admitted (t : GeneralizedTime) (raw : String) : Prop where
  text : raw.toList = t.compact (ending t.fraction)
  bound : raw.length ≤ 64
  epoch : 1970 ≤ t.civil.year
  valid : t.civil.Valid

theorem parseIso8601Time_utc {d : DateText} (hyear : 1970 ≤ d.civil.year) (h : d.civil.Valid) :
    parseIso8601Time (String.ofList (d.chars .utc)) = some (timegm d.civil) := by
  have hnonneg := timegm_nonneg hyear h
  rw [parseIso8601Time_chars String.toList_ofList, if_neg (by omega)]
  exact congrArg some (Int.sub_zero _)

theorem ending_iff {s : List Char} : (∃ fraction, s = GeneralizedTime.ending fraction) ↔
    s.getLast? = some 'Z' ∧ (s.length = 1 ∨ 3 ≤ s.length ∧ s.head? = some '.' ∧
      ∀ c ∈ s.tail.dropLast, isDigit c = true) := by
  constructor
  · rintro ⟨fraction | ⟨n, digits⟩, rfl⟩
    · simp [GeneralizedTime.ending]
    · refine ⟨getLast?_concat, Or.inr ⟨by simp [GeneralizedTime.ending, digits.2], rfl, ?_⟩⟩
      simpa [GeneralizedTime.ending] using digits.all_digits
  · rintro ⟨hlast, h⟩
    obtain ⟨s, rfl⟩ : ∃ t, s = t ++ ['Z'] := getLast?_eq_some_iff.mp hlast
    cases s with
    | nil => exact ⟨none, rfl⟩
    | cons c digits =>
      obtain ⟨hlength, hdot, hdigits⟩ := h.resolve_left (by simp)
      simp at hlength hdot hdigits
      exact ⟨some ⟨digits.length - 1, digits, by omega, hdigits⟩, by
        simp [GeneralizedTime.ending, hdot]⟩

theorem normalizeTimestampTime_compact {raw : String} {d : DateText} {rest : List Char}
    (h : raw.toList = d.compact rest) (iso : String) : normalizeTimestampTime raw = some iso ↔
      (raw.length ≤ 64 ∧ ∃ fraction, rest = GeneralizedTime.ending fraction) ∧
        1970 ≤ d.civil.year ∧ d.civil.Valid ∧ iso = String.ofList (d.chars .utc) := by
  have hparts : (raw.toList.drop 0).take 4 = d.year.chars ∧
      (raw.toList.drop 4).take 2 = d.month.chars ∧ (raw.toList.drop 6).take 2 = d.day.chars ∧
      (raw.toList.drop 8).take 2 = d.hour.chars ∧ (raw.toList.drop 10).take 2 = d.minute.chars ∧
      (raw.toList.drop 12).take 2 = d.second.chars := by
    simp [h, DateText.compact, drop_append, Digits.length_eq, drop_eq_nil_of_le]
  obtain ⟨body, hbody, hdigits, hraw⟩ : ∃ body, body.length = 14 ∧
      (∀ c ∈ body, isDigit c = true) ∧ raw.toList = body ++ rest :=
    ⟨d.compact [], by simp [DateText.compact, Digits.length_eq],
      by grind [DateText.compact, Digits.all_digits], by simp [h, DateText.compact]⟩
  rw [ending_iff, normalizeTimestampTime, ← String.length_toList]
  simp only [numberAt, hparts, Option.ite_none_left_eq_some]
  have hiso : d.year.chars ++ ['-'] ++ d.month.chars ++ ['-'] ++ d.day.chars ++ ['T'] ++
      d.hour.chars ++ [':'] ++ d.minute.chars ++ [':'] ++ d.second.chars ++ ['Z'] =
        d.chars .utc := by
    simp [DateText.chars, DateText.dateChars, DateText.timeChars, Zone.chars]
  simp only [hraw, length_append, hbody, hiso]
  cases rest with
  | nil => simp
  | cons c rest =>
    rw [getLast?_append_of_ne_nil _ (cons_ne_nil c rest), take_left' hbody,
      getElem?_append_right (by omega), hbody, drop_append]
    simp [hbody, drop_eq_nil_of_le]
    constructor
    · rintro ⟨⟨-, hlength, hlast⟩, -, hshape, ⟨hyear, hm, hm', hh, hmi, hs⟩, hday, -, rfl⟩
      exact ⟨⟨hlength, hlast, by grind⟩, hyear, ⟨⟨hm, hm'⟩, hday, hh, hmi, hs⟩, rfl⟩
    · rintro ⟨⟨hlength, hlast, hshape⟩, hyear, hvalid, rfl⟩
      refine ⟨⟨by omega, hlength, hlast⟩, hdigits, by grind,
        ⟨hyear, hvalid.month.1, hvalid.month.2, hvalid.hour, hvalid.minute, hvalid.second⟩,
        hvalid.day, ?_, rfl⟩
      rw [parseIso8601Time_utc hyear hvalid]
      exact Option.some_ne_none _

theorem split_digits {n k : Nat} {s : List Char} (hlength : n + k ≤ s.length)
    (hdigits : ∀ c ∈ s.take (n + k), isDigit c = true) : ∃ ds : Digits n, ∃ rest,
      s = ds.chars ++ rest ∧ k ≤ rest.length ∧ ∀ c ∈ rest.take k, isDigit c = true := by
  rw [take_add] at hdigits
  refine ⟨⟨s.take n, length_take_of_le (by omega), fun c hc => ?_⟩, s.drop n,
    (take_append_drop n s).symm, by rw [length_drop]; omega, fun c hc => ?_⟩
  · exact hdigits c (mem_append_left _ hc)
  · exact hdigits c (mem_append_right _ hc)

theorem exists_compact {raw iso : String} (h : normalizeTimestampTime raw = some iso) :
    ∃ d rest, raw.toList = DateText.compact d rest := by
  simp only [normalizeTimestampTime, Option.ite_none_left_eq_some] at h
  obtain ⟨hlength, hdigits, -⟩ := h
  simp at hdigits
  obtain ⟨year, r, hr, hlength, hdigits⟩ := @split_digits 4 10 raw.toList (by omega) hdigits
  obtain ⟨month, r, rfl, hlength, hdigits⟩ := @split_digits 2 8 r hlength hdigits
  obtain ⟨day, r, rfl, hlength, hdigits⟩ := @split_digits 2 6 r hlength hdigits
  obtain ⟨hour, r, rfl, hlength, hdigits⟩ := @split_digits 2 4 r hlength hdigits
  obtain ⟨minute, r, rfl, hlength, hdigits⟩ := @split_digits 2 2 r hlength hdigits
  obtain ⟨second, r, rfl, -, -⟩ := @split_digits 2 0 r hlength hdigits
  exact ⟨⟨year, month, day, hour, minute, second⟩, r, hr⟩

/-- **The times of tokens are normalised exactly.**  Accepted are the texts of the date-times of
the calendar since 1970, with or without a fraction, of at most 64 characters; what is normalised
is read as the second of the text, in the order of the calendar. -/
theorem normalizeTimestampTime_exact : (∀ raw, (∃ iso, normalizeTimestampTime raw = some iso) ↔
      ∃ t : GeneralizedTime, t.Admitted raw) ∧
    (∀ raw (t : GeneralizedTime), t.Admitted raw →
      (normalizeTimestampTime raw).bind parseIso8601Time = some (timegm t.civil)) ∧
    ∀ raw raw' s s' (t t' : GeneralizedTime), t.Admitted raw → t'.Admitted raw' →
      (normalizeTimestampTime raw).bind parseIso8601Time = some s →
      (normalizeTimestampTime raw').bind parseIso8601Time = some s' →
        (s < s' ↔ t.civil.fields < t'.civil.fields) := by
  have hsome : ∀ {raw} {t : GeneralizedTime}, t.Admitted raw →
      normalizeTimestampTime raw = some (String.ofList (t.toDateText.chars .utc)) := fun h =>
    (normalizeTimestampTime_compact h.text _).mpr ⟨⟨h.bound, _, rfl⟩, h.epoch, h.valid, rfl⟩
  have hparse : ∀ raw (t : GeneralizedTime), t.Admitted raw →
      (normalizeTimestampTime raw).bind parseIso8601Time = some (timegm t.civil) := by
    intro raw t h
    rw [hsome h, Option.bind_some, parseIso8601Time_utc h.epoch h.valid]
  refine ⟨fun raw => ⟨?_, fun h => ⟨_, hsome h.choose_spec⟩⟩, hparse, ?_⟩
  · rintro ⟨iso, h⟩
    obtain ⟨d, rest, hraw⟩ := exists_compact h
    obtain ⟨⟨hbound, fraction, rfl⟩, hyear, hvalid, -⟩ :=
      (normalizeTimestampTime_compact hraw iso).mp h
    exact ⟨⟨d, fraction⟩, hraw, hbound, hyear, hvalid⟩
  · intro raw raw' s s' t t' h h' hs hs'
    rw [← timegm_lt_iff h.valid h'.valid, Option.some.inj (hs.symm.trans (hparse raw t h)),
      Option.some.inj (hs'.symm.trans (hparse raw' t' h'))]

end Tamga.IsoTime
