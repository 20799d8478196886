import Mathlib.Tactic.SplitIfs
import SomethingsWrong.Clock.Calendar

/-! `BuildFreeNonHolidayDays`: the free days are lines of a text, and a line that is no date is
passed over. -/
namespace SomethingsWrong.Calendar

def isDigit (c : Char) : Bool := decide (48 ≤ c.toNat) && decide (c.toNat ≤ 57)

def value (digits : List Char) : Nat := digits.foldl (fun v c => 10 * v + (c.toNat - 48)) 0

/-- The digits at the beginning, as many as there are but no more than `most`. -/
def readNumber (least most : Nat) (s : List Char) : Option (Nat × List Char) :=
  let digits := (s.take most).takeWhile isDigit
  if least ≤ digits.length then some (value digits, s.drop digits.length) else none

def expect (c : Char) : List Char → Option (List Char)
  | [] => none
  | d :: s => if d = c then some s else none

/-- `DateTime.DaysInMonth` -/
def daysInMonth (year month : Nat) : Nat :=
  if month = 2 then (if isLeapYear year then 29 else 28)
  else if month = 4 ∨ month = 6 ∨ month = 9 ∨ month = 11 then 30
  else 31

/-- A date that `DateTime` has. -/
def IsDate (day month year : Nat) : Prop :=
  1 ≤ year ∧ year ≤ 9999 ∧ 1 ≤ month ∧ month ≤ 12 ∧ 1 ≤ day ∧ day ≤ daysInMonth year month

instance (day month year : Nat) : Decidable (IsDate day month year) :=
  inferInstanceAs (Decidable (_ ∧ _ ∧ _ ∧ _ ∧ _ ∧ _))

/-- `DateTime.ParseExact(str, "d.M.yyyy", CultureInfo.InvariantCulture)`, `none` where it throws. -/
def parseExact (str : List Char) : Option Int := do
  let (day, str) ← readNumber 1 2 str
  let str ← expect '.' str
  let (month, str) ← readNumber 1 2 str
  let str ← expect '.' str
  let (year, str) ← readNumber 4 4 str
  if str = [] ∧ IsDate day month year then some (dateTime year month day) else none

/-- `text.Replace("\n",",").Replace("\r", "")` -/
def replaced (text : List Char) : List Char :=
  (text.map fun c => if c = '\n' then ',' else c).filter (· ≠ '\r')

/-- The body of the loop: what `ParseExact` throws is caught and dropped. -/
def addDay (results : List Int) (str : List Char) : List Int :=
  match parseExact str with
  | some day => results ++ [day]
  | none => results

def buildFreeNonHolidayDays (text : List Char) : List Int :=
  ((replaced text).splitOn ',').foldl addDay []

theorem foldl_addDay (strs : List (List Char)) (results : List Int) :
    strs.foldl addDay results = results ++ strs.filterMap parseExact := by
  induction strs generalizing results with
  | nil => simp
  | cons str strs ih =>
    rw [List.foldl_cons, ih, addDay, List.filterMap_cons]
    cases parseExact str with
    | none => rfl
    | some day => simp

section Dates

/-- A number of at least `least` and at most `most` digits. -/
def IsNumber (least most : Nat) (digits : List Char) : Prop :=
  least ≤ digits.length ∧ digits.length ≤ most ∧ ∀ c ∈ digits, isDigit c = true

/-- The line is `time`, written as `d.M.yyyy`; the day and the month may begin with a zero. -/
def Writes (line : List Char) (time : Int) : Prop :=
  ∃ day month year, IsNumber 1 2 day ∧ IsNumber 1 2 month ∧ IsNumber 4 4 year ∧
    line = day ++ '.' :: (month ++ '.' :: year) ∧ IsDate (value day) (value month) (value year) ∧
    time = dateTime (value year) (value month) (value day)

theorem expect_eq_some {c : Char} {s rest : List Char} (h : expect c s = some rest) :
    s = c :: rest := by
  cases s with
  | nil => exact absurd h (by simp [expect])
  | cons d s =>
    simp only [expect] at h
    split_ifs at h with hd
    rw [hd, Option.some.inj h]

theorem readNumber_eq_some {least most n : Nat} {s rest : List Char}
    (h : readNumber least most s = some (n, rest)) :
    ∃ digits, IsNumber least most digits ∧ s = digits ++ rest ∧ n = value digits := by
  unfold readNumber at h
  simp only at h
  split_ifs at h with hleast
  obtain ⟨rfl, rfl⟩ := Prod.mk.inj (Option.some.inj h)
  have hbegins : (s.take most).takeWhile isDigit <+: s.take most := List.takeWhile_prefix _
  have hmost := hbegins.length_le
  rw [List.length_take] at hmost
  exact ⟨_, ⟨hleast, by omega, List.all_eq_true.mp List.all_takeWhile⟩,
    (List.prefix_iff_eq_append.mp (hbegins.trans (List.take_prefix ..))).symm, rfl⟩

/-- The number ends where it is full or where no digit follows. -/
theorem readNumber_append {least most : Nat} {digits rest : List Char}
    (h : IsNumber least most digits)
    (hstop : digits.length = most ∨ ∀ c ∈ rest.head?, isDigit c = false) :
    readNumber least most (digits ++ rest) = some (value digits, rest) := by
  obtain ⟨hleast, hmost, hdigits⟩ := h
  have hmore : (rest.take (most - digits.length)).takeWhile isDigit = [] := by
    rcases hstop with hfull | hstop
    · rw [hfull, Nat.sub_self, List.take_zero, List.takeWhile_nil]
    · cases rest with
      | nil => simp
      | cons c rest =>
        have hc : isDigit c = false := hstop c rfl
        cases most - digits.length with
        | zero => rfl
        | succ n => simp [hc]
  have hread : ((digits ++ rest).take most).takeWhile isDigit = digits := by
    rw [List.take_append, List.take_of_length_le hmost, List.takeWhile_append_of_pos hdigits, hmore,
      List.append_nil]
  unfold readNumber
  simp only [hread, hleast, ↓reduceIte, List.drop_left]

theorem Writes.parseExact {line : List Char} {time : Int} (h : Writes line time) :
    Calendar.parseExact line = some time := by
  obtain ⟨day, month, year, hday, hmonth, hyear, rfl, hdate, rfl⟩ := h
  -- a dot ends a number, and the year is full
  have hdot : ∀ (rest : List Char), ∀ c ∈ ('.' :: rest).head?, isDigit c = false := by
    intro rest c hc
    obtain rfl := Option.some.inj hc
    rfl
  have hread : readNumber 4 4 (year ++ []) = some (value year, []) :=
    readNumber_append hyear (.inl (Nat.le_antisymm hyear.2.1 hyear.1))
  rw [List.append_nil] at hread
  unfold Calendar.parseExact
  rw [readNumber_append hday (.inr (hdot _))]
  simp only [Option.bind_eq_bind, Option.bind_some, expect, ↓reduceIte]
  rw [readNumber_append hmonth (.inr (hdot _))]
  simp only [Option.bind_some, ↓reduceIte, hread, hdate, and_self]

theorem parseExact_eq_some_iff {line : List Char} {time : Int} :
    parseExact line = some time ↔ Writes line time := by
  refine ⟨fun h => ?_, Writes.parseExact⟩
  simp only [parseExact, Option.bind_eq_bind, Option.bind_eq_some_iff, Prod.exists] at h
  obtain ⟨_, _, hday, _, hdot, _, _, hmonth, _, hdot', _, _, hyear, h⟩ := h
  split_ifs at h with hdate
  obtain ⟨day, hd, rfl, rfl⟩ := readNumber_eq_some hday
  obtain rfl := expect_eq_some hdot
  obtain ⟨month, hm, rfl, rfl⟩ := readNumber_eq_some hmonth
  obtain rfl := expect_eq_some hdot'
  obtain ⟨year, hy, rfl, rfl⟩ := readNumber_eq_some hyear
  obtain ⟨rfl, hdate⟩ := hdate
  exact ⟨day, month, year, hd, hm, hy, by rw [List.append_nil], hdate, (Option.some.inj h).symm⟩

end Dates

section Lines

/-- The end of a line, in either kind of file. -/
def newline (crlf : Bool) : List Char := if crlf then ['\r', '\n'] else ['\n']

/-- Nothing in it ends a line. -/
def IsLine (line : List Char) : Prop := ',' ∉ line ∧ '\n' ∉ line ∧ '\r' ∉ line

/-- A line of the text: a date, or something that is none. -/
inductive Entry where
  | date (line : List Char) (time : Int) (h : Writes line time)
  | other (line : List Char) (h : ∀ time, ¬ Writes line time) (hline : IsLine line)

def Entry.line : Entry → List Char
  | date line _ _ => line
  | other line _ _ => line

def Entry.day : Entry → Option Int
  | date _ time _ => some time
  | other _ _ _ => none

theorem Entry.parseExact_line (e : Entry) : parseExact e.line = e.day := by
  cases e with
  | date line time h => exact h.parseExact
  | other line h hline =>
    exact Option.eq_none_iff_forall_ne_some.mpr fun time hparsed =>
      h time (parseExact_eq_some_iff.mp hparsed)

theorem Writes.isLine {line : List Char} {time : Int} (h : Writes line time) : IsLine line := by
  obtain ⟨day, month, year, hday, hmonth, hyear, rfl, -, -⟩ := h
  have hchars : ∀ c ∈ day ++ '.' :: (month ++ '.' :: year), isDigit c = true ∨ c = '.' := by
    intro c hc
    simp only [List.mem_append, List.mem_cons] at hc
    rcases hc with hc | rfl | hc | rfl | hc
    · exact .inl (hday.2.2 c hc)
    · exact .inr rfl
    · exact .inl (hmonth.2.2 c hc)
    · exact .inr rfl
    · exact .inl (hyear.2.2 c hc)
  refine ⟨fun hc => ?_, fun hc => ?_, fun hc => ?_⟩ <;>
    exact absurd (hchars _ hc) (by decide)

theorem Entry.isLine (e : Entry) : IsLine e.line := by
  cases e with
  | date line time h => exact h.isLine
  | other line h hline => exact hline

theorem replaced_append (s t : List Char) : replaced (s ++ t) = replaced s ++ replaced t := by
  unfold replaced
  rw [List.map_append, List.filter_append]

theorem IsLine.replaced {line : List Char} (h : IsLine line) : Calendar.replaced line = line := by
  obtain ⟨-, hn, hr⟩ := h
  have hmap : (line.map fun c => if c = '\n' then ',' else c) = line := by
    conv_rhs => rw [← List.map_id line]
    apply List.map_congr_left
    intro c hc
    rw [if_neg (ne_of_mem_of_not_mem hc hn), id]
  unfold Calendar.replaced
  rw [hmap, List.filter_eq_self]
  intro c hc
  exact decide_eq_true (ne_of_mem_of_not_mem hc hr)

theorem replaced_lines (crlf : Bool) {lines : List (List Char)} (h : ∀ l ∈ lines, IsLine l) :
    replaced ((newline crlf).intercalate lines) = [','].intercalate lines := by
  induction lines with
  | nil => rfl
  | cons l lines ih =>
    have hrest := ih fun k hk => h k (List.mem_cons_of_mem _ hk)
    have hhead := (h l (List.mem_cons_self ..)).replaced
    cases lines with
    | nil => simpa using hhead
    | cons k lines =>
      have hbreak : replaced (newline crlf) = [','] := by cases crlf <;> rfl
      rw [List.intercalate_cons_cons, List.intercalate_cons_cons, replaced_append, replaced_append,
        hhead, hbreak, hrest]

theorem splitOn_replaced (crlf : Bool) {lines : List (List Char)} (hne : lines ≠ [])
    (h : ∀ l ∈ lines, IsLine l) :
    (replaced ((newline crlf).intercalate lines)).splitOn ',' = lines := by
  rw [replaced_lines crlf h]
  exact List.splitOn_intercalate ',' (fun l hl => (h l hl).1) hne

/-- With either ending of the lines, and whatever other lines stand between them: the dates of the
text, all of them and in their order. -/
theorem free_days_read_back (crlf : Bool) (entries : List Entry) :
    buildFreeNonHolidayDays ((newline crlf).intercalate (entries.map Entry.line)) =
      entries.filterMap Entry.day := by
  have hparsed : (entries.map Entry.line).filterMap parseExact = entries.filterMap Entry.day := by
    rw [List.filterMap_map]
    apply List.filterMap_congr
    intro e _
    exact e.parseExact_line
  unfold buildFreeNonHolidayDays
  rw [foldl_addDay, List.nil_append]
  cases entries with
  | nil => cases crlf <;> rfl
  | cons e entries =>
    have hlines : ∀ l ∈ (e :: entries).map Entry.line, IsLine l := by
      intro l hl
      obtain ⟨e', -, rfl⟩ := List.mem_map.mp hl
      exact e'.isLine
    rw [splitOn_replaced crlf (by simp) hlines, hparsed]

/-- The text in the source. -/
def freeDaysText (crlf : Bool) : List Char :=
  (newline crlf).intercalate (["", "1.1.2014", "6.1.2014", "21.4.2014", "1.5.2014", "2.5.2014",
    "8.6.2014", "19.6.2014", "15.8.2014", "11.11.2014", "24.12.2014", "25.12.2014",
    "26.12.2014"].map String.toList)

theorem freeNonHolidayDays_built (crlf : Bool) :
    buildFreeNonHolidayDays (freeDaysText crlf) = freeNonHolidayDays := by
  cases crlf <;> decide +kernel

end Lines

end SomethingsWrong.Calendar
