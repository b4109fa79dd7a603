import Mathlib.Tactic.SplitIfs
import Recon.Decode.Basic
import Recon.Json.Reader

/-! Spans of time given as a table of seconds and nanoseconds. Such a table is taken just if it has the two fields
and nothing else, but of the nanoseconds only the last 32 bits count, and a span that cannot be held is not refused
in an orderly way. -/
namespace Recon.Decode

/-- The table holds a number of seconds and one of nanoseconds below 2^64, in either order, and nothing else. -/
inductive Counts (secs nanos : Nat) : List (String × Value) → Prop
  | secsFirst (secs_lt : secs < UInt64.size) (nanos_lt : nanos < UInt64.size) :
      Counts secs nanos [("secs",.int secs),("nanos",.int nanos)]
  | nanosFirst (secs_lt : secs < UInt64.size) (nanos_lt : nanos < UInt64.size) :
      Counts secs nanos [("nanos",.int nanos),("secs",.int secs)]

lemma Counts.lookup {secs nanos : Nat} {es : List (String × Value)} (h : Counts secs nanos es) :
    es.lookup "secs" = some (.int secs) ∧ es.lookup "nanos" = some (.int nanos) := by
  cases h <;> exact ⟨rfl,rfl⟩

lemma Counts.unique {secs nanos secs' nanos' : Nat} {es : List (String × Value)} (h : Counts secs nanos es)
    (h' : Counts secs' nanos' es) : secs = secs' ∧ nanos = nanos' := by
  have same_secs := h.lookup.1.symm.trans h'.lookup.1
  have same_nanos := h.lookup.2.symm.trans h'.lookup.2
  simp only [Option.some.injEq,Value.int.injEq,Int.natCast_inj] at same_secs same_nanos
  exact ⟨same_secs,same_nanos⟩

/-- The nanoseconds that two such numbers make. -/
def total (secs nanos : Nat) : Nat := secs * Duration.Unit.second.nanos + nanos

/-- What the reader makes of them: nanoseconds beyond 32 bits are dropped. -/
def heard (secs nanos : Nat) : Nat := total secs (nanos % UInt32.size)

lemma heard_eq_total_iff {secs nanos : Nat} : heard secs nanos = total secs nanos ↔ nanos < UInt32.size := by
  unfold heard total
  constructor
  · intro h
    have kept : nanos % UInt32.size = nanos := Nat.add_left_cancel h
    rw [← kept]
    exact Nat.mod_lt nanos (by decide)
  · intro h
    rw [Nat.mod_eq_of_lt h]

lemma below_eq_ok_iff {bound n : Nat} {v : Value} : below bound v = .ok n ↔ v = .int n ∧ n < bound := by
  cases v with
  | int i =>
    simp only [below,Value.int.injEq]
    split
    · next h =>
      rw [Except.ok.injEq]
      omega
    · next h =>
      simp only [reduceCtorEq,false_iff]
      omega
  | _ => simp [below]

lemma below_ne_overflow (bound : Nat) (v : Value) : below bound v ≠ .error .overflow := by
  unfold below
  split
  · split <;> simp
  · simp

lemma span_eq (secs nanos : Nat) :
    span secs nanos = (Duration.ofNanos? (heard secs nanos)).elim (.error .overflow) .ok := rfl

lemma span_eq_ok_iff {secs nanos : Nat} {d : Duration} : span secs nanos = .ok d ↔ d.nanos = heard secs nanos := by
  rw [span_eq,← Duration.ofNanos?_eq_some_iff]
  cases Duration.ofNanos? (heard secs nanos) <;> simp

lemma span_eq_overflow_iff {secs nanos : Nat} :
    span secs nanos = .error .overflow ↔ Duration.limit ≤ heard secs nanos := by
  rw [span_eq,← Nat.not_lt]
  unfold Duration.ofNanos?
  split_ifs with h <;> simp [h]

lemma secondsAndNanos_eq_iff {first second : String} {a b : Nat} {x : Decoded Duration}
    (named : ∀ k l, x ≠ .error (.duration (.unexpectedKeys k l))) : secondsAndNanos first second a b = x ↔
      first = "secs" ∧ second = "nanos" ∧ span a b = x ∨ first = "nanos" ∧ second = "secs" ∧ span b a = x := by
  unfold secondsAndNanos
  split_ifs with straight swapped
  · obtain ⟨rfl,rfl⟩ := straight
    simp
  · obtain ⟨rfl,rfl⟩ := swapped
    simp
  · have other := (named first second).symm
    simp only [other,false_iff,not_or]
    exact ⟨fun ⟨h,h',_⟩ => straight ⟨h,h'⟩,fun ⟨h,h',_⟩ => swapped ⟨h,h'⟩⟩

/-- Two fields below 2^64, and what comes after them. -/
structure Leads (first second : String) (a b : Nat) (rest es : List (String × Value)) : Prop where
  entries : es = (first,.int a) :: (second,.int b) :: rest
  first_lt : a < UInt64.size
  second_lt : b < UInt64.size

namespace Leads

variable {first second key key' : String} {a b : Nat} {v w : Value} {rest es : List (String × Value)}

lemma first_read (leads : Leads first second a b rest ((key,v) :: es)) : below UInt64.size v = .ok a := by
  obtain ⟨same,a_lt,_⟩ := leads
  cases same
  exact below_eq_ok_iff.2 ⟨rfl,a_lt⟩

lemma second_read (leads : Leads first second a b rest ((key,v) :: (key',w) :: es)) :
    below UInt64.size w = .ok b := by
  obtain ⟨same,_,b_lt⟩ := leads
  cases same
  exact below_eq_ok_iff.2 ⟨rfl,b_lt⟩

end Leads

/-- Either two numbers lead, and their names decide before the rest is looked at, or the table is refused. -/
theorem durationTable_cases (es : List (String × Value)) :
    (∃ first second a b rest, Leads first second a b rest es ∧ durationTable .json es =
      (secondsAndNanos first second a b).bind fun d => if rest.isEmpty then .ok d else .error .mismatch) ∨
    (∀ first second a b rest, ¬ Leads first second a b rest es) ∧
      ∃ fault, fault ≠ .overflow ∧ durationTable .json es = .error fault := by
  generalize read : durationTable .json es = x
  unfold durationTable at read
  split at read
  · refine .inr ⟨?_,_,by simp,read.symm⟩
    rintro _ _ _ _ _ ⟨same,_,_⟩
    cases same
  next first v es =>
  split at read
  · next fault refused =>
    refine .inr ⟨fun _ _ _ _ _ leads => ?_,fault,fun same => below_ne_overflow _ _ (same ▸ refused),read.symm⟩
    rw [leads.first_read] at refused
    cases refused
  next a read_a =>
  split at read
  · refine .inr ⟨?_,_,by simp,read.symm⟩
    rintro _ _ _ _ _ ⟨same,_,_⟩
    cases same
  next second w rest =>
  split at read
  · next fault refused =>
    refine .inr ⟨fun _ _ _ _ _ leads => ?_,fault,fun same => below_ne_overflow _ _ (same ▸ refused),read.symm⟩
    rw [leads.second_read] at refused
    cases refused
  next b read_b =>
  obtain ⟨rfl,a_lt⟩ := below_eq_ok_iff.1 read_a
  obtain ⟨rfl,b_lt⟩ := below_eq_ok_iff.1 read_b
  refine .inl ⟨first,second,a,b,rest,⟨rfl,a_lt,b_lt⟩,?_⟩
  split at read
  · next fault made =>
    rw [made,← read]
    rfl
  · next d made =>
    rw [made,← read]
    rfl

/-- What two leading numbers come to, once it is known that they lead. -/
theorem Leads.durationTable_eq {first second : String} {a b : Nat} {rest es : List (String × Value)}
    (leads : Leads first second a b rest es) : durationTable .json es =
      (secondsAndNanos first second a b).bind fun d => if rest.isEmpty then .ok d else .error .mismatch := by
  obtain ⟨first',second',a',b',rest',leads',read⟩ | ⟨none_lead,_⟩ := durationTable_cases es
  · have same := leads.entries.symm.trans leads'.entries
    simp only [List.cons.injEq,Prod.mk.injEq,Value.int.injEq,Int.natCast_inj] at same
    obtain ⟨⟨rfl,rfl⟩,⟨rfl,rfl⟩,rfl⟩ := same
    exact read
  · exact absurd leads (none_lead first second a b rest)

lemma Counts.leads {secs nanos : Nat} {counts : List (String × Value)} (h : Counts secs nanos counts)
    (rest : List (String × Value)) : ∃ first second a b, Leads first second a b rest (counts ++ rest) ∧
      secondsAndNanos first second a b = span secs nanos := by
  cases h with
  | secsFirst secs_lt nanos_lt =>
    exact ⟨"secs","nanos",secs,nanos,⟨rfl,secs_lt,nanos_lt⟩,if_pos ⟨rfl,rfl⟩⟩
  | nanosFirst secs_lt nanos_lt =>
    refine ⟨"nanos","secs",nanos,secs,⟨rfl,nanos_lt,secs_lt⟩,?_⟩
    unfold secondsAndNanos
    rw [if_neg (by simp),if_pos ⟨rfl,rfl⟩]

lemma Counts.durationTable_eq {secs nanos : Nat} {counts : List (String × Value)} (h : Counts secs nanos counts)
    (rest : List (String × Value)) : durationTable .json (counts ++ rest) =
      (span secs nanos).bind fun d => if rest.isEmpty then .ok d else .error .mismatch := by
  obtain ⟨first,second,a,b,leads,made⟩ := h.leads rest
  rw [leads.durationTable_eq,made]

lemma Leads.counts {first second : String} {a b : Nat} {rest es : List (String × Value)} {x : Decoded Duration}
    (leads : Leads first second a b rest es) (made : secondsAndNanos first second a b = x)
    (named : ∀ k l, x ≠ .error (.duration (.unexpectedKeys k l))) :
    ∃ secs nanos counts, es = counts ++ rest ∧ Counts secs nanos counts ∧ span secs nanos = x := by
  obtain ⟨rfl,a_lt,b_lt⟩ := leads
  obtain ⟨rfl,rfl,made⟩ | ⟨rfl,rfl,made⟩ := (secondsAndNanos_eq_iff named).1 made
  · exact ⟨a,b,_,rfl,.secsFirst a_lt b_lt,made⟩
  · exact ⟨b,a,_,rfl,.nanosFirst b_lt a_lt,made⟩

lemma duration_table_eq_ok_iff (es : List (String × Value)) (d : Duration) :
    duration .json (.table es) = .ok d ↔ ∃ secs nanos, Counts secs nanos es ∧ d.nanos = heard secs nanos := by
  change durationTable .json es = .ok d ↔ _
  constructor
  · intro read
    obtain ⟨first,second,a,b,rest,leads,same⟩ | ⟨_,fault,_,refused⟩ := durationTable_cases es
    · rw [same] at read
      cases made : secondsAndNanos first second a b with
      | error fault =>
        rw [made] at read
        cases read
      | ok d' =>
        rw [made] at read
        change (if rest.isEmpty then .ok d' else .error .mismatch : Decoded Duration) = _ at read
        split_ifs at read with nothing
        · cases read
          obtain ⟨secs,nanos,counts,rfl,counted,made⟩ := leads.counts made (by simp)
          rw [List.isEmpty_iff.1 nothing,List.append_nil]
          exact ⟨secs,nanos,counted,span_eq_ok_iff.1 made⟩
    · rw [refused] at read
      cases read
  · rintro ⟨secs,nanos,counted,exactly⟩
    have read := counted.durationTable_eq []
    rw [List.append_nil,span_eq_ok_iff.2 exactly] at read
    exact read

lemma duration_table_eq_overflow_iff (es : List (String × Value)) :
    duration .json (.table es) = .error .overflow ↔ ∃ secs nanos counts rest, es = counts ++ rest ∧
      Counts secs nanos counts ∧ Duration.limit ≤ heard secs nanos := by
  change durationTable .json es = .error .overflow ↔ _
  constructor
  · intro read
    obtain ⟨first,second,a,b,rest,leads,same⟩ | ⟨_,fault,other,refused⟩ := durationTable_cases es
    · rw [same] at read
      cases made : secondsAndNanos first second a b with
      | ok d =>
        rw [made] at read
        change (if rest.isEmpty then .ok d else .error .mismatch : Decoded Duration) = _ at read
        split_ifs at read
        cases read
      | error fault =>
        rw [made] at read
        cases read
        obtain ⟨secs,nanos,counts,same,counted,made⟩ := leads.counts made (by simp)
        exact ⟨secs,nanos,counts,rest,same,counted,span_eq_overflow_iff.1 made⟩
    · rw [refused] at read
      exact absurd (Except.error.inj read) other
  · rintro ⟨secs,nanos,counts,rest,rfl,counted,beyond⟩
    rw [counted.durationTable_eq,span_eq_overflow_iff.2 beyond]
    rfl

/-- A table is taken just if it counts seconds and nanoseconds, and is then heard as `heard` says. A sum that cannot be
held is the only way to overflow; it does so before surplus fields are looked at. The sum is kept exactly just if the
nanoseconds have 32 bits and the sum can be held. -/
theorem duration_table_heard (es : List (String × Value)) :
    (∀ d, duration .json (.table es) = .ok d ↔ ∃ secs nanos, Counts secs nanos es ∧ d.nanos = heard secs nanos) ∧
    (duration .json (.table es) = .error .overflow ↔ ∃ secs nanos counts rest, es = counts ++ rest ∧
      Counts secs nanos counts ∧ Duration.limit ≤ heard secs nanos) ∧
    ∀ secs nanos, Counts secs nanos es →
      ((∃ d, duration .json (.table es) = .ok d ∧ d.nanos = total secs nanos) ↔
        nanos < UInt32.size ∧ total secs nanos < Duration.limit) := by
  refine ⟨duration_table_eq_ok_iff es,duration_table_eq_overflow_iff es,fun secs nanos counted => ?_⟩
  constructor
  · rintro ⟨d,read,exactly⟩
    obtain ⟨secs',nanos',counted',same⟩ := (duration_table_eq_ok_iff es d).1 read
    obtain ⟨rfl,rfl⟩ := counted.unique counted'
    exact ⟨heard_eq_total_iff.1 (same.symm.trans exactly),exactly ▸ d.nanos_lt⟩
  · rintro ⟨kept,held⟩
    have same : heard secs nanos = total secs nanos := heard_eq_total_iff.2 kept
    exact ⟨⟨total secs nanos,held⟩,(duration_table_eq_ok_iff es _).2 ⟨secs,nanos,counted,same.symm⟩,rfl⟩

/-- The largest sum that has 32 bits of whole nanoseconds, given nanoseconds first. -/
theorem duration_table_heard_longest : Counts 18446744073709551615 999999999
      [("nanos",.int 999999999),("secs",.int 18446744073709551615)] ∧
    ∃ d, duration .json (.table [("nanos",.int 999999999),("secs",.int 18446744073709551615)]) = .ok d ∧
      d.nanos = Duration.limit - 1 := by
  have counted : Counts 18446744073709551615 999999999
      [("nanos",.int 999999999),("secs",.int 18446744073709551615)] := .nanosFirst (by decide) (by decide)
  obtain ⟨d,read,exactly⟩ := ((duration_table_heard _).2.2 _ _ counted).2 (by decide)
  exact ⟨counted,d,read,exactly⟩

/-- Nanoseconds beyond 32 bits are lost, and one nanosecond too many is no fault of the table. -/
theorem duration_table_misheard :
    (∃ d, Decode.document (duration .json) (Json.read "\x7b\"secs\": 1, \"nanos\": 4294967296\x7d".toList) = .ok d ∧
      d.nanos = 1000000000 ∧ total 1 4294967296 = 5294967296 ∧ total 1 4294967296 < Duration.limit) ∧
    Decode.document (duration .json)
      (Json.read "\x7b\"secs\": 18446744073709551615, \"nanos\": 1000000000\x7d".toList) = .error .overflow := by
  refine ⟨⟨⟨1000000000,by decide⟩,?_,by decide,by decide,by decide⟩,?_⟩
  · rfl
  · rfl

end Recon.Decode
