/-
  LivekitClient/StoredInflation.lean
  ==================================
  **The zlib that stores inflates as promised.**

  The data that its inflater reads means what `feed` says, up to the first end.
-/
import LivekitClient.InflationTurns
import LivekitClient.StoredDeflate

namespace LivekitClient.StoredDeflate

open LivekitClient.KeyProvider
open LivekitClient.DataStreamCompression

/-! ## 1. What data means -/

namespace Reading

/-- Behind the end there is only what is wrong. -/
theorem feed_done_cons (byte : UInt8) (rest : Bytes) : feed done (byte :: rest) = (bad, []) := by
  rw [feed, step, feed_bad]
  rfl

theorem feed_done_output (input : Bytes) : (feed done input).2 = [] := by
  cases input with
  | nil => rfl
  | cons byte rest => rw [feed_done_cons]

/-- An end is not passed on the way to something that is not wrong. -/
theorem eq_nil_of_feed_done_ne_bad {input : Bytes} (h : (feed done input).1 ≠ bad) :
    input = [] := by
  cases input with
  | nil => rfl
  | cons byte rest =>
    rw [feed_done_cons] at h
    exact absurd rfl h

end Reading

def rawDeflate : RawDeflate where
  decoded data := (Reading.feed .start data).2
  Ends data := (Reading.feed .start data).1 = .done
  Invalid data := (Reading.feed .start data).1 = .bad ∧
    ∀ before, before <+: data → (Reading.feed .start before).1 ≠ .done
  decoded_nil := rfl
  decoded_append data more := by
    rw [Reading.feed_append]
    exact List.prefix_append _ _
  not_ends_nil := by decide
  not_invalid_nil := by
    rintro ⟨hbad, -⟩
    cases hbad
  invalid_append := by
    rintro data ⟨hbad, hends⟩ more
    constructor
    · rw [Reading.feed_append, hbad, Reading.feed_bad]
    · intro before hbefore hdone
      rcases List.prefix_or_prefix_of_prefix hbefore (List.prefix_append data more) with
        hshorter | ⟨between, rfl⟩
      · exact hends before hshorter hdone
      · rw [Reading.feed_append, hbad, Reading.feed_bad] at hdone
        cases hdone
  ends_append := by
    intro data hdone more
    rw [Reading.feed_append, hdone, Reading.feed_done_output]
    refine ⟨List.append_nil _, ?_, Reading.eq_nil_of_feed_done⟩
    rintro ⟨-, hends⟩
    exact hends data (List.prefix_append data more) hdone

/-! ## 2. Its promises -/

/-- A call stops at the end. -/
theorem inflateLoop_stays {reading : Reading} {input before : Bytes} {room : Nat}
    (hbefore : before <+: input.take (inflateLoop reading input room).1)
    (hdone : (reading.feed before).1 = .done) :
    before = input.take (inflateLoop reading input room).1 := by
  induction input generalizing reading before room with
  | nil => exact List.prefix_nil.mp (by rw [List.take_nil] at hbefore; exact hbefore)
  | cons byte rest ih =>
    rw [inflateLoop] at hbefore ⊢
    split at hbefore
    · rename_i hstop
      rw [if_pos hstop]
      exact List.prefix_nil.mp hbefore
    · rename_i hgoes
      rw [if_neg hgoes]
      dsimp only at hbefore ⊢
      rw [List.take_succ_cons] at hbefore ⊢
      cases before with
      | nil =>
        -- the call would not have gone on
        exact absurd (Or.inl hdone) hgoes
      | cons byte' before =>
        obtain ⟨rfl, hmore⟩ := List.cons_prefix_cons.mp hbefore
        rw [Reading.feed] at hdone
        rw [← ih hmore hdone]

theorem inflate_result (reading : Reading) (input : Bytes) (room : Nat) :
    (zlib.inflate (.inflating reading) input room).result =
      if (inflateLoop reading input room).2.2 = .done then .streamEnd
      else if (inflateLoop reading input room).2.2 = .bad then .other
      else if (inflateLoop reading input room).1 = 0 then .bufError else .ok := rfl

theorem inflate_other {reading : Reading} {input : Bytes} {room : Nat} :
    (zlib.inflate (.inflating reading) input room).result = .other ↔
      (inflateLoop reading input room).2.2 = .bad := by
  rw [inflate_result]
  constructor
  · intro hother
    split_ifs at hother with hdone hbad hzero
    exact hbad
  · intro hbad
    rw [hbad]
    rfl

theorem inflate_streamEnd {reading : Reading} {input : Bytes} {room : Nat} :
    (zlib.inflate (.inflating reading) input room).result = .streamEnd ↔
      (inflateLoop reading input room).2.2 = .done := by
  rw [inflate_result]
  constructor
  · intro hend
    split_ifs at hend with hdone hbad hzero
    exact hdone
  · intro hdone
    rw [hdone]
    rfl

/-- A call goes on from where the session is. -/
theorem feed_called {reading : Reading} {fed out : Bytes}
    (hfeed : Reading.feed .start fed = (reading, out)) (input : Bytes) (room : Nat) :
    Reading.feed .start (fed ++ input.take (inflateLoop reading input room).1) =
      ((inflateLoop reading input room).2.2, out ++ (inflateLoop reading input room).2.1) := by
  obtain ⟨-, -, hpart, -⟩ := inflateLoop_feed reading input room
  rw [Reading.feed_append, hfeed, hpart]

/-- A session goes on only where nothing was wrong. -/
theorem inflating_not_bad {stream : Stream} {fed out : Bytes} (h : Inflating zlib stream fed out) :
    (Reading.feed .start fed).1 ≠ .bad := by
  cases h with
  | init hinit => exact nofun
  | @call stream fed out h input room hresult =>
    obtain ⟨reading, rfl, hfeed⟩ := inflating_stream h
    rw [show (zlib.inflate (.inflating reading) input room).consumed =
      (inflateLoop reading input room).1 from rfl, feed_called hfeed]
    intro hbad
    exact hresult.1 (inflate_other.mpr hbad)

/-- Where a call finds something wrong, no end came before. -/
theorem invalid_of_other {reading : Reading} {fed out input : Bytes} {room : Nat}
    (hfeed : Reading.feed .start fed = (reading, out)) (hgood : reading ≠ .bad)
    (hbad : (inflateLoop reading input room).2.2 = .bad) :
    rawDeflate.Invalid (fed ++ input) := by
  obtain ⟨-, -, hpart, -⟩ := inflateLoop_feed reading input room
  have hinput := List.take_append_drop (inflateLoop reading input room).1 input
  constructor
  · rw [Reading.feed_append, hfeed, ← hinput, Reading.feed_append, hpart, hbad, Reading.feed_bad]
  · intro before hbefore hdone
    rcases List.prefix_or_prefix_of_prefix hbefore (List.prefix_append fed input) with
      ⟨between, rfl⟩ | ⟨between, rfl⟩
    · -- the session would be at the end, where the call stops at once
      rw [Reading.feed_append, hdone] at hfeed
      have hreading : (Reading.feed .done between).1 = reading := congrArg Prod.fst hfeed
      rw [← hreading] at hgood
      have hnil := Reading.eq_nil_of_feed_done_ne_bad hgood
      subst hnil
      rw [← hreading] at hbad
      cases input with
      | nil => cases hbad
      | cons byte rest =>
        rw [Reading.feed, inflateLoop, if_pos (Or.inl rfl)] at hbad
        cases hbad
    · have hbetween : between <+: input := (List.prefix_append_right_inj fed).mp hbefore
      rw [Reading.feed_append, hfeed] at hdone
      rcases List.prefix_or_prefix_of_prefix hbetween
        (List.take_prefix (inflateLoop reading input room).1 input) with hshorter | ⟨more, rfl⟩
      · have hall := inflateLoop_stays hshorter hdone
        rw [hall, hpart, hbad] at hdone
        cases hdone
      · rw [Reading.feed_append, hpart, hbad, Reading.feed_bad] at hdone
        cases hdone

theorem decodes {stream : Stream} {fed out : Bytes} (h : Inflating zlib stream fed out)
    (input : Bytes) (room : Nat) :
    Decodes rawDeflate fed out input room (zlib.inflate stream input room) := by
  have hnotbad := inflating_not_bad h
  obtain ⟨reading, rfl, hfeed⟩ := inflating_stream h
  obtain ⟨-, -, -, hstop⟩ := inflateLoop_feed reading input room
  have hcalled := feed_called hfeed input room
  rw [hfeed] at hnotbad
  refine ⟨?_, ?_, ?_⟩
  · intro hother
    exact invalid_of_other hfeed hnotbad (inflate_other.mp hother)
  · intro hend
    refine ⟨?_, (congrArg Prod.snd hcalled).symm⟩
    exact (congrArg Prod.fst hcalled).trans (inflate_streamEnd.mp hend)
  · intro hother hend hroom
    have hdone : (inflateLoop reading input room).2.2 ≠ .done :=
      fun hdone => hend (inflate_streamEnd.mpr hdone)
    have hbad : (inflateLoop reading input room).2.2 ≠ .bad :=
      fun hbad => hother (inflate_other.mpr hbad)
    have hrest : input.drop (inflateLoop reading input room).1 = [] := by
      rcases hstop with hused | hatEnd | hfull
      · exact hused
      · exact absurd hatEnd hdone
      · exact absurd hfull (Nat.ne_of_lt hroom)
    have hall := List.take_append_drop (inflateLoop reading input room).1 input
    rw [hrest, List.append_nil] at hall
    rw [hall] at hcalled
    refine ⟨hrest, (congrArg Prod.snd hcalled).symm, ?_, ?_⟩
    · rintro ⟨hinvalid, -⟩
      rw [hcalled] at hinvalid
      exact hbad hinvalid
    · intro hends
      exact hdone ((congrArg Prod.fst hcalled).symm.trans hends)

/-- The zlib that stores keeps the promises. -/
theorem inflates : zlib.Inflates rawDeflate where
  consumed stream input room := by
    cases stream with
    | inflating reading => exact (inflateLoop_feed reading input room).1
    | deflating _ _ => exact Nat.zero_le _
    | finishing _ => exact Nat.zero_le _
  produced stream input room := by
    cases stream with
    | inflating reading => exact (inflateLoop_feed reading input room).2.1
    | deflating _ _ => exact Nat.zero_le _
    | finishing _ => exact Nat.zero_le _
  progress stream input room hok := by
    cases stream with
    | inflating reading =>
      rw [inflate_result] at hok
      split_ifs at hok with hdone hbad hzero
      exact Or.inl (Nat.pos_of_ne_zero hzero)
    | deflating _ _ => cases hok
    | finishing _ => cases hok
  decoded h := by
    obtain ⟨reading, -, hfeed⟩ := inflating_stream h
    exact ⟨[], (List.append_nil _).trans (congrArg Prod.snd hfeed).symm⟩
  stays h before hbefore hdone := by
    obtain ⟨between, rfl⟩ := hbefore
    have hnotbad := inflating_not_bad h
    rw [Reading.feed_append, show (Reading.feed .start before).1 = .done from hdone] at hnotbad
    rw [Reading.eq_nil_of_feed_done_ne_bad hnotbad, List.append_nil]
  decodes h input room _ := decodes h input room

end LivekitClient.StoredDeflate
