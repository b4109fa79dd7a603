import Mathlib.Data.List.TakeWhile
import Recon.Duration.Reader
import Recon.Proofs.Text.Decimal

/-! What texts are spans of time. Without the blanks around it a text is a run of numeric characters, as long as it can
be, and a rest. The run has to be a plain number of 64 bits and the rest the name of a unit; minutes and hours have to
fit when they are counted in seconds. The first of these that fails is the one told. -/
namespace Recon

namespace Text

/-- Of the numeric characters only the digits are ASCII. -/
theorem isDigit_of_isNumeric {c : Char} (numeric : isNumeric c = true) (ascii : c.toNat < 128) : c.isDigit = true := by
  rwa [isNumeric,if_pos ascii] at numeric

end Text

namespace Duration

/-- A run of numeric characters that goes on as far as it can, and what comes after it. -/
structure Parted (cs run rest : List Char) : Prop where
  together : Text.trim cs = run ++ rest
  numeric : ∀ c ∈ run, Text.isNumeric c = true
  ends : ∀ c, rest.head? = some c → Text.isNumeric c = false

/-- A decimal number of 64 bits, perhaps with zeros in front. -/
structure Numeral (run : List Char) (n : Nat) : Prop where
  filled : run ≠ []
  digits : ∀ c ∈ run, c.isDigit = true
  value : Nat.ofDigitChars 10 run 0 = n
  held : n < UInt64.size

/-- There is no number, a character of it is no plain digit, or it has more than 64 bits. -/
def Illegible (run : List Char) : Prop :=
  run = [] ∨ (∃ c ∈ run, 128 ≤ c.toNat) ∨ UInt64.size ≤ Nat.ofDigitChars 10 run 0

/-- The names of the units. A number without a name counts seconds. -/
inductive Names : List Char → Unit → Prop
  | nano : Names ['n','s'] .nano
  | micro : Names ['u','s'] .micro
  | microSign : Names ['µ','s'] .micro
  | milli : Names ['m','s'] .milli
  | second : Names ['s'] .second
  | unnamed : Names [] .second
  | minute : Names ['m'] .minute
  | minutes : Names ['m','i','n'] .minute
  | hour : Names ['h'] .hour

/-- The seconds have 64 bits. -/
def Fits (n : Nat) : Unit → Prop
  | .minute => n * 60 < UInt64.size
  | .hour => n * 3600 < UInt64.size
  | _ => True

/-- The text is the number `n` with a name of the unit `u`. -/
def Spells (cs : List Char) (n : Nat) (u : Unit) : Prop :=
  ∃ run rest, Parted cs run rest ∧ Numeral run n ∧ Names (Text.trim rest) u

/-- What a text is read as. -/
inductive Reads (cs : List Char) : Except ReadError Duration → Prop
  | span {n : Nat} {u : Unit} {d : Duration} (spelled : Spells cs n u) (fits : Fits n u)
      (exactly : d.nanos = n * u.nanos) : Reads cs (.ok d)
  | invalidNumber {run rest : List Char} (parted : Parted cs run rest) (illegible : Illegible run) :
      Reads cs (.error (.invalidNumber (Text.trim cs)))
  | unknownUnit {run rest : List Char} {n : Nat} (parted : Parted cs run rest) (number : Numeral run n)
      (unknown : ∀ u, ¬ Names (Text.trim rest) u) : Reads cs (.error (.unknownUnit rest))
  | outOfRange {n : Nat} {u : Unit} (spelled : Spells cs n u) (large : ¬ Fits n u) :
      Reads cs (.error (.outOfRange (Text.trim cs)))

section Parts

variable {cs run rest : List Char} {n : Nat}

lemma Parted.takeWhile_eq (parted : Parted cs run rest) : (Text.trim cs).takeWhile Text.isNumeric = run := by
  have stops : rest.takeWhile Text.isNumeric = [] := by
    cases rest with
    | nil => rfl
    | cons c rest => rw [List.takeWhile_cons_of_neg (by simp [parted.ends c rfl])]
  rw [parted.together,List.takeWhile_append_of_pos parted.numeric,stops,List.append_nil]

lemma Parted.dropWhile_eq (parted : Parted cs run rest) : (Text.trim cs).dropWhile Text.isNumeric = rest := by
  have whole := List.takeWhile_append_dropWhile (p := Text.isNumeric) (l := Text.trim cs)
  rw [parted.takeWhile_eq,parted.together] at whole
  rw [parted.together]
  exact List.append_cancel_left whole

/-- There is one way to part a text. -/
theorem Parted.unique {run' rest' : List Char} (parted : Parted cs run rest) (parted' : Parted cs run' rest') :
    run = run' ∧ rest = rest' :=
  ⟨parted.takeWhile_eq.symm.trans parted'.takeWhile_eq,parted.dropWhile_eq.symm.trans parted'.dropWhile_eq⟩

lemma exists_parted (cs : List Char) : ∃ run rest, Parted cs run rest := by
  refine ⟨(Text.trim cs).takeWhile Text.isNumeric,(Text.trim cs).dropWhile Text.isNumeric,
    List.takeWhile_append_dropWhile.symm,fun c => List.mem_takeWhile_imp,fun c first => ?_⟩
  have stops := List.head?_dropWhile_not Text.isNumeric (Text.trim cs)
  rw [first] at stops
  simpa using stops

lemma readBelow?_eq_some_iff : Text.readBelow? UInt64.size run = some n ↔ Numeral run n := by
  rw [Text.readBelow?,Option.filter_eq_some_iff,Text.readNat?_eq_some_iff,decide_eq_true_eq]
  exact ⟨fun ⟨⟨filled,digits,value⟩,held⟩ => ⟨filled,digits,value,held⟩,
    fun ⟨filled,digits,value,held⟩ => ⟨⟨filled,digits,value⟩,held⟩⟩

lemma illegible_iff (numeric : ∀ c ∈ run, Text.isNumeric c = true) : Illegible run ↔ ∀ n, ¬ Numeral run n := by
  constructor
  · rintro (empty | ⟨c,inside,foreign⟩ | large) n number
    · exact number.filled empty
    · have ascii := Text.toNat_lt_of_isDigit (number.digits c inside)
      omega
    · have held := number.held
      rw [← number.value] at held
      omega
  · intro none
    by_contra legible
    obtain ⟨filled,ascii,held⟩ : run ≠ [] ∧ (∀ c ∈ run, c.toNat < 128) ∧ Nat.ofDigitChars 10 run 0 < UInt64.size := by
      simpa [Illegible] using legible
    exact none _ ⟨filled,fun c inside => Text.isDigit_of_isNumeric (numeric c inside) (ascii c inside),rfl,held⟩

lemma unitOf?_eq_some_iff {name : List Char} {u : Unit} : unitOf? name = some u ↔ Names name u := by
  constructor
  · intro h
    unfold unitOf? at h
    split at h
    · next empty =>
      cases h
      rw [List.isEmpty_iff.mp empty]
      exact .unnamed
    · obtain ⟨entry,found,rfl⟩ := Option.map_eq_some_iff.mp h
      have same : entry.1 = name := by simpa using List.find?_some found
      have listed := List.mem_of_find?_eq_some found
      simp only [unitNames,List.mem_cons,List.not_mem_nil,or_false] at listed
      subst same
      rcases listed with rfl | rfl | rfl | rfl | rfl | rfl | rfl | rfl <;> constructor
  · rintro ⟨⟩ <;> rfl

/-- A text spells one number and one unit. -/
theorem Spells.unique {n' : Nat} {u u' : Unit} (h : Spells cs n u) (h' : Spells cs n' u') : n = n' ∧ u = u' := by
  obtain ⟨run,rest,parted,number,named⟩ := h
  obtain ⟨_,_,parted',number',named'⟩ := h'
  obtain ⟨rfl,rfl⟩ := parted.unique parted'
  rw [← unitOf?_eq_some_iff] at named named'
  exact ⟨number.value.symm.trans number'.value,Option.some.inj (named.symm.trans named')⟩

/-- Of numbers of 64 bits only minutes and hours can be too many. -/
theorem fits_iff (held : n < UInt64.size) (u : Unit) : Fits n u ↔ n * u.nanos < limit := by
  cases u <;> simp only [Fits,Unit.nanos,limit,UInt64.size,true_iff] at held ⊢ <;> omega

lemma Spells.held {u : Unit} (spelled : Spells cs n u) : n < UInt64.size := by
  obtain ⟨_,_,_,number,_⟩ := spelled
  exact number.held

end Parts

variable {cs : List Char}

/-- Every text is read in one of the four ways. -/
theorem exists_reads (cs : List Char) : ∃ r, Reads cs r := by
  obtain ⟨run,rest,parted⟩ := exists_parted cs
  by_cases illegible : Illegible run
  · exact ⟨_,.invalidNumber parted illegible⟩
  obtain ⟨n,number⟩ : ∃ n, Numeral run n := by simpa [illegible_iff parted.numeric] using illegible
  by_cases named : ∃ u, Names (Text.trim rest) u
  · obtain ⟨u,named⟩ := named
    have spelled : Spells cs n u := ⟨run,rest,parted,number,named⟩
    by_cases fits : Fits n u
    · exact ⟨.ok ⟨n * u.nanos,(fits_iff number.held u).mp fits⟩,.span spelled fits rfl⟩
    · exact ⟨_,.outOfRange spelled fits⟩
  · exact ⟨_,.unknownUnit parted number (not_exists.mp named)⟩

lemma Reads.read_eq {r : Except ReadError Duration} (h : Reads cs r) : read cs = r := by
  cases h with
  | span spelled fits exactly =>
    obtain ⟨run,rest,parted,number,named⟩ := spelled
    simp only [read,parted.takeWhile_eq,parted.dropWhile_eq,readBelow?_eq_some_iff.mpr number,
      unitOf?_eq_some_iff.mpr named,ofNanos?_eq_some_iff.mpr exactly]
  | invalidNumber parted illegible =>
    have unread : Text.readBelow? UInt64.size _ = none := Option.eq_none_iff_forall_ne_some.mpr fun n read =>
      (illegible_iff parted.numeric).mp illegible n (readBelow?_eq_some_iff.mp read)
    simp only [read,parted.takeWhile_eq,unread]
  | unknownUnit parted number unknown =>
    have unnamed : unitOf? _ = none := Option.eq_none_iff_forall_ne_some.mpr fun u named =>
      unknown u (unitOf?_eq_some_iff.mp named)
    simp only [read,parted.takeWhile_eq,parted.dropWhile_eq,readBelow?_eq_some_iff.mpr number,unnamed]
  | outOfRange spelled large =>
    obtain ⟨run,rest,parted,number,named⟩ := spelled
    have beyond : ofNanos? _ = none := dif_neg (mt (fits_iff number.held _).mpr large)
    simp only [read,parted.takeWhile_eq,parted.dropWhile_eq,readBelow?_eq_some_iff.mpr number,
      unitOf?_eq_some_iff.mpr named,beyond]

lemma read_eq_iff {r : Except ReadError Duration} : read cs = r ↔ Reads cs r := by
  obtain ⟨r',reads⟩ := exists_reads cs
  constructor
  · rintro rfl
    rwa [reads.read_eq]
  · exact Reads.read_eq

lemma read_eq_ok_iff {d : Duration} :
    read cs = .ok d ↔ ∃ n u, Spells cs n u ∧ Fits n u ∧ d.nanos = n * u.nanos := by
  rw [read_eq_iff]
  constructor
  · rintro (⟨spelled,fits,exactly⟩ | _ | _ | _)
    exact ⟨_,_,spelled,fits,exactly⟩
  · rintro ⟨n,u,spelled,fits,exactly⟩
    exact .span spelled fits exactly

lemma mapError_eq_error_iff {α ε ε' : Type} {f : ε → ε'} {x : Except ε α} {e' : ε'} :
    x.mapError f = .error e' ↔ ∃ e, x = .error e ∧ f e = e' := by
  cases x <;> simp [Except.mapError]

lemma listed_units : "' only '" ++ (", ".intercalate (unitNames.map (String.ofList ·.1)) ++ "' are supported") =
    "' only 'ns, us, µs, ms, s, m, min, h' are supported" := by
  decide

lemma message_unknownUnit (rest : List Char) : (ReadError.unknownUnit rest).message = "Unknown duration unit '"
    ++ String.ofList rest ++ "' only 'ns, us, µs, ms, s, m, min, h' are supported" := by
  unfold ReadError.message
  simp only [String.append_assoc,listed_units]

/-- A text is a span just if it spells a number of a unit that fits, and then it is exactly that many of the unit. What
is told of any other text is the first fault in it: its number, its unit, its size. -/
theorem read_follows_grammar (cs : List Char) :
    (∀ d, read cs = .ok d ↔ ∃ n u, Spells cs n u ∧ Fits n u ∧ d.nanos = n * u.nanos) ∧
    (∀ n u, Spells cs n u → Fits n u → ∃ d, read cs = .ok d ∧ d.nanos = n * u.nanos) ∧
    ∀ message, (read cs).mapError ReadError.message = .error message ↔
      (∃ run rest, Parted cs run rest ∧ Illegible run ∧
        message = "Invalid number in duration: " ++ String.ofList (Text.trim cs)) ∨
      (∃ run rest n, Parted cs run rest ∧ Numeral run n ∧ (∀ u, ¬ Names (Text.trim rest) u) ∧
        message = "Unknown duration unit '" ++ String.ofList rest
          ++ "' only 'ns, us, µs, ms, s, m, min, h' are supported") ∨
      (∃ n u, Spells cs n u ∧ ¬ Fits n u ∧
        message = "Duration out of range: " ++ String.ofList (Text.trim cs)) := by
  refine ⟨fun d => read_eq_ok_iff,fun n u spelled fits => ?_,fun message => ?_⟩
  · have small := (fits_iff spelled.held u).mp fits
    exact ⟨⟨n * u.nanos,small⟩,read_eq_ok_iff.mpr ⟨n,u,spelled,fits,rfl⟩,rfl⟩
  · rw [mapError_eq_error_iff]
    constructor
    · rintro ⟨cause,refused,rfl⟩
      cases read_eq_iff.mp refused with
      | invalidNumber parted illegible => exact .inl ⟨_,_,parted,illegible,rfl⟩
      | unknownUnit parted number unknown => exact .inr (.inl ⟨_,_,_,parted,number,unknown,message_unknownUnit _⟩)
      | outOfRange spelled large => exact .inr (.inr ⟨_,_,spelled,large,rfl⟩)
    · rintro (⟨run,rest,parted,illegible,rfl⟩ | ⟨run,rest,n,parted,number,unknown,rfl⟩ | ⟨n,u,spelled,large,rfl⟩)
      · exact ⟨_,(Reads.invalidNumber parted illegible).read_eq,rfl⟩
      · exact ⟨_,(Reads.unknownUnit parted number unknown).read_eq,message_unknownUnit rest⟩
      · exact ⟨_,(Reads.outOfRange spelled large).read_eq,rfl⟩

/-- The largest number of hours that fits, after a blank that is not ASCII and with zeros in front. -/
theorem read_follows_grammar_longest : Spells "\u00a0005124095576030431 h\n".toList 5124095576030431 .hour ∧
    Fits 5124095576030431 .hour ∧ ∃ d, read "\u00a0005124095576030431 h\n".toList = .ok d ∧
      d.nanos = 5124095576030431 * Unit.hour.nanos := by
  have parted : Parted "\u00a0005124095576030431 h\n".toList "005124095576030431".toList [' ','h'] := by
    refine ⟨by decide,List.all_eq_true.mp rfl,fun c first => ?_⟩
    cases first
    decide
  have spelled : Spells "\u00a0005124095576030431 h\n".toList 5124095576030431 .hour :=
    ⟨_,_,parted,⟨by decide,List.all_eq_true.mp rfl,by decide,by decide⟩,.hour⟩
  have fits : Fits 5124095576030431 .hour := by
    change 5124095576030431 * 3600 < UInt64.size
    decide
  exact ⟨spelled,fits,(read_follows_grammar _).2.1 _ _ spelled fits⟩

end Duration
end Recon
