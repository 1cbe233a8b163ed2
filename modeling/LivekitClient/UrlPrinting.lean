/-
  LivekitClient/UrlPrinting.lean
  ==============================
  **Reading printed URLs** (`Url` in `src/core/detail/uri.cpp`).

  What `GetAbsoluteUrl` prints is put together from parts that do not have the characters
  that end them, so the constructor cuts it at the same places.  Three of its special cases
  do not fit those of the printer: a path that begins with a slash is printed without the one
  that the constructor drops, a query that begins with `?` loses it, and a URL without a
  scheme is printed without `://`, so that one in its path or query is the first.  The result
  of this file is that a printed URL reads as itself exactly when none of the three happens.
-/
import LivekitClient.Urls

namespace LivekitClient.Urls

open Std
open LivekitClient.TextSearch

/-! ## 1. URLs that can be printed and read -/

/-- No parameter has a character that ends it. -/
def WellFormedParameters (parameters : Parameters) : Prop :=
  ∀ name value : Text, parameters[name]? = some value →
    name ≠ [] ∧ '='.toUInt8 ∉ name ∧ (∀ c ∈ name ++ value, c ≠ '&'.toUInt8 ∧ c ≠ '#'.toUInt8)

/-- What the constructor promises of its parts: none of them has a character that ends it. -/
structure WellFormed (url : Url) : Prop where
  lower : toLower url.scheme = url.scheme
  scheme : find (ascii "://") (url.scheme ++ ascii "://") = some url.scheme.length
  host : ∀ c ∈ url.host, Url.isHostEnd c = false
  path : ∀ c ∈ url.encodedPath, Url.isPathEnd c = false
  parameters : WellFormedParameters url.encodedQueryParameters

section Scheme

theorem toLowerChar_toLowerChar (c : UInt8) : toLowerChar (toLowerChar c) = toLowerChar c := by
  unfold toLowerChar
  by_cases hupper : c < 'A'.toUInt8 ∨ 'Z'.toUInt8 < c
  · rw [if_pos hupper, if_pos hupper]
  · have hbehind : 'Z'.toUInt8 < c + ('a'.toUInt8 - 'A'.toUInt8) := by
      have hA : 'A'.toUInt8.toNat = 65 := rfl
      have hZ : 'Z'.toUInt8.toNat = 90 := rfl
      have hdistance : ('a'.toUInt8 - 'A'.toUInt8).toNat = 32 := rfl
      rw [UInt8.lt_iff_toNat_lt, UInt8.lt_iff_toNat_lt] at hupper
      rw [UInt8.lt_iff_toNat_lt, UInt8.toNat_add]
      omega
    rw [if_neg hupper, if_pos (Or.inr hbehind)]

/-- No other character becomes one of `://`. -/
theorem toLowerChar_eq_iff (c x : UInt8) (hx : x ∈ ascii "://") :
    toLowerChar c = x ↔ c = x := by
  have hsmall : x.toNat ≤ 58 := by
    have hall : (ascii "://").all (fun y => decide (y.toNat ≤ 58)) = true := by decide
    exact of_decide_eq_true (List.all_eq_true.mp hall x hx)
  have hA : 'A'.toUInt8.toNat = 65 := rfl
  have hZ : 'Z'.toUInt8.toNat = 90 := rfl
  have hdistance : ('a'.toUInt8 - 'A'.toUInt8).toNat = 32 := rfl
  unfold toLowerChar
  split
  · rfl
  · rename_i hupper
    rw [UInt8.lt_iff_toNat_lt, UInt8.lt_iff_toNat_lt] at hupper
    rw [← UInt8.toNat_inj, ← UInt8.toNat_inj, UInt8.toNat_add]
    omega

theorem toLower_toLower (text : Text) : toLower (toLower text) = toLower text := by
  unfold toLower
  rw [List.map_map]
  apply List.map_congr_left
  intro c _
  exact toLowerChar_toLowerChar c

/-- The scheme that is read: lower case, and the first `://` comes behind it. -/
theorem readScheme_spec {text scheme behind : Text}
    (hread : Url.readScheme text = (scheme, behind)) :
    toLower scheme = scheme ∧
      find (ascii "://") (scheme ++ ascii "://") = some scheme.length := by
  unfold Url.readScheme at hread
  split at hread
  · rename_i schemePos hfind
    cases hread
    refine ⟨toLower_toLower _, ?_⟩
    obtain ⟨-, hle, -⟩ := find_eq_some_iff.mp hfind
    have hlength : (text.take schemePos).length = schemePos := by
      rw [List.length_take, Nat.min_eq_left hle]
    have hcut := eq_of_find_eq_some hfind
    rw [hcut, find_append_iff (by rw [List.length_append, hlength])] at hfind
    have hmap : toLower (text.take schemePos) ++ ascii "://" =
        (text.take schemePos ++ ascii "://").map toLowerChar := by
      rw [List.map_append]
      rfl
    rw [hmap, find_map toLowerChar_eq_iff, hfind, toLower, List.length_map, hlength]
  · cases hread
    exact ⟨rfl, rfl⟩

end Scheme

/-- What the constructor reads is well formed. -/
theorem wellFormed_of_new {text : Text} {url : Url} (hnew : Url.new text = .ok url) :
    WellFormed url := by
  obtain ⟨portText, rest, hcut, hpath, hparameters⟩ := new_eq_ok hnew
  obtain ⟨hlower, hscheme⟩ := readScheme_spec hcut.scheme
  refine ⟨hlower, hscheme, hcut.host, ?_, ?_⟩
  · intro c hc
    rw [hpath] at hc
    have hinside := List.mem_takeWhile_imp (List.tail_subset _ hc)
    simpa using hinside
  · intro name value hvalue
    rw [hparameters, getElem?_pieces] at hvalue
    obtain ⟨piece, hmem, rfl, rfl⟩ := hvalue.exists_piece
    obtain ⟨hseparator, hpart⟩ := mem_pieces hmem
    refine ⟨hvalue.1, notMem_nameOf piece, ?_⟩
    intro c hc
    have hpiece : c ∈ piece := by
      rcases List.mem_append.mp hc with hc | hc
      · exact List.IsInfix.subset (nameOf_part piece) hc
      · exact List.IsInfix.subset (valueOf_part piece) hc
    refine ⟨fun heq => hseparator (heq ▸ hpiece), ?_⟩
    have hquery := List.IsInfix.subset hpart hpiece
    unfold queryText at hquery
    split at hquery
    · simpa using List.mem_takeWhile_imp hquery
    · cases hquery

/-! ## 2. The printed text -/

section Decimal

/-- The code of a digit. -/
theorem toNat_toUInt8_of_isDigit {digit : Char} (hdigit : digit.isDigit = true) :
    digit.toUInt8.toNat = digit.toNat ∧ 48 ≤ digit.toNat ∧ digit.toNat ≤ 57 := by
  simp only [Char.isDigit, Bool.and_eq_true, decide_eq_true_eq, ge_iff_le,
    UInt32.le_iff_toNat_le] at hdigit
  have hlow : 48 ≤ digit.toNat := hdigit.1
  have hhigh : digit.toNat ≤ 57 := hdigit.2
  refine ⟨?_, hlow, hhigh⟩
  have hmod : digit.toUInt8.toNat = digit.toNat % 256 := rfl
  omega

theorem isDigit_decimal (n : Nat) : ∀ c ∈ decimal n, isDigit c = true := by
  intro c hc
  obtain ⟨digit, hdigit, rfl⟩ := List.mem_map.mp hc
  obtain ⟨hcode, hlow, hhigh⟩ := toNat_toUInt8_of_isDigit
    (Nat.isDigit_of_mem_toDigits (by decide) (by decide) hdigit)
  have hzero : '0'.toUInt8.toNat = 48 := rfl
  have hnine : '9'.toUInt8.toNat = 57 := rfl
  rw [isDigit, decide_eq_true_eq, UInt8.le_iff_toNat_le, UInt8.le_iff_toNat_le]
  omega

/-- The digits are added up as in `ofDigitChars`. -/
theorem foldl_digits (digits : List Char) (hdigits : ∀ digit ∈ digits, digit.isDigit = true)
    (value : Nat) :
    (digits.map Char.toUInt8).foldl (fun value c => 10 * value + (c - '0'.toUInt8).toNat) value =
      Nat.ofDigitChars 10 digits value := by
  induction digits generalizing value with
  | nil => rfl
  | cons digit digits ih =>
    obtain ⟨hcode, hlow, hhigh⟩ := toNat_toUInt8_of_isDigit (hdigits digit List.mem_cons_self)
    have hvalue : (digit.toUInt8 - '0'.toUInt8).toNat = digit.toNat - '0'.toNat := by
      have hzero : '0'.toUInt8.toNat = 48 := rfl
      have hzero' : '0'.toNat = 48 := rfl
      rw [UInt8.toNat_sub_of_le _ _ (by rw [UInt8.le_iff_toNat_le]; omega)]
      omega
    rw [List.map_cons, List.foldl_cons, hvalue, Nat.ofDigitChars_cons,
      ih fun other hother => hdigits other (List.mem_cons_of_mem _ hother)]

/-- Reading a number that was printed. -/
theorem stoi_decimal {n : Nat} (hsmall : n < 2147483648) : stoi (decimal n) = .ok n := by
  have hnonempty : (decimal n).isEmpty = false := by
    rw [List.isEmpty_eq_false_iff, decimal, ne_eq, List.map_eq_nil_iff]
    exact Nat.toDigits_ne_nil
  have hvalue := foldl_digits (Nat.toDigits 10 n)
    (fun digit hdigit => Nat.isDigit_of_mem_toDigits (by decide) (by decide) hdigit) 0
  rw [Nat.ofDigitChars_ten_toDigits] at hvalue
  rw [stoi, hnonempty, if_neg Bool.false_ne_true]
  simp only [decimal, hvalue]
  rw [if_neg (by omega)]

end Decimal

/-- A parameter as it is printed. -/
def entryText (entry : Text × Text) : Text := entry.1 ++ '='.toUInt8 :: entry.2

def portText (url : Url) : Text :=
  if url.port ≠ 0 then ':'.toUInt8 :: decimal url.port.toNat else []

/-- The path as it is printed. -/
def printedPath (url : Url) : Text :=
  if url.encodedPath.isEmpty ∨ url.encodedPath.head? = some '/'.toUInt8 then url.encodedPath
  else '/'.toUInt8 :: url.encodedPath

/-- The path and the query of the printed text. -/
def printedRest (url : Url) : Text :=
  printedPath url ++ formatEncodedUrlQueryParameters url.encodedQueryParameters

section Printing

theorem formatFold_eq (entries : List (Text × Text)) (queryStr : Text) (separator : UInt8) :
    (entries.foldl (fun (queryStr, separator) q =>
      (queryStr ++ [separator] ++ q.1 ++ ascii "=" ++ q.2, '&'.toUInt8))
      (queryStr, separator)).1 =
    queryStr ++ if entries.isEmpty then []
      else separator :: ['&'.toUInt8].intercalate (entries.map entryText) := by
  induction entries generalizing queryStr separator with
  | nil => simp
  | cons entry entries ih =>
    rw [List.foldl_cons, ih]
    cases entries with
    | nil => simp [entryText, ascii]
    | cons other entries => simp [entryText, ascii]

theorem formatEncodedUrlQueryParameters_eq (parameters : Parameters) :
    formatEncodedUrlQueryParameters parameters =
      if parameters.toList.isEmpty then []
      else '?'.toUInt8 :: ['&'.toUInt8].intercalate (parameters.toList.map entryText) := by
  rw [formatEncodedUrlQueryParameters, formatFold_eq, List.nil_append]

theorem getAbsoluteUrl_eq (url : Url) :
    url.getAbsoluteUrl = (if url.scheme.isEmpty then [] else url.scheme ++ ascii "://") ++
      (url.host ++ (portText url ++ printedRest url)) := by
  have hport : (if url.port ≠ 0 then ascii ":" ++ decimal url.port.toNat else []) =
      portText url := rfl
  unfold Url.getAbsoluteUrl Url.getUrlWithoutQuery printedRest printedPath
  rw [hport]
  cases hpath : url.encodedPath with
  | nil => simp
  | cons c path =>
    by_cases hslash : c = '/'.toUInt8
    · simp [hslash]
    · simp [hslash, ascii]

end Printing

/-! ## 3. Reading the printed text -/

/-- The parameters in the order of the map, joined by `&`. -/
def joined (parameters : Parameters) : Text :=
  ['&'.toUInt8].intercalate (parameters.toList.map entryText)

section Joined

variable {parameters : Parameters}

theorem WellFormedParameters.entry (h : WellFormedParameters parameters) {entry : Text × Text}
    (hmem : entry ∈ parameters.toList) :
    entry.1 ≠ [] ∧ '='.toUInt8 ∉ entry.1 ∧
      (∀ c ∈ entryText entry, c ≠ '&'.toUInt8 ∧ c ≠ '#'.toUInt8) := by
  obtain ⟨hname, hequals, hinside⟩ :=
    h entry.1 entry.2 (ExtTreeMap.mem_toList_iff_getElem?_eq_some.mp hmem)
  refine ⟨hname, hequals, ?_⟩
  intro c hc
  rcases List.mem_append.mp hc with hc | hc
  · exact hinside c (List.mem_append_left _ hc)
  · rcases List.mem_cons.mp hc with rfl | hc
    · exact ⟨by decide, by decide⟩
    · exact hinside c (List.mem_append_right _ hc)

theorem mem_intercalate {texts : List Text} {c : UInt8}
    (hmem : c ∈ ['&'.toUInt8].intercalate texts) :
    c = '&'.toUInt8 ∨ ∃ text ∈ texts, c ∈ text := by
  induction texts with
  | nil => cases hmem
  | cons text texts ih =>
    cases texts with
    | nil => exact Or.inr ⟨text, by simp, by simpa using hmem⟩
    | cons other texts =>
      rw [List.intercalate_cons_cons, List.mem_append, List.mem_append, List.mem_singleton] at hmem
      rcases hmem with (hmem | hmem) | hmem
      · exact Or.inr ⟨text, by simp, hmem⟩
      · exact Or.inl hmem
      · rcases ih hmem with hc | ⟨text, htext, hc⟩
        · exact Or.inl hc
        · exact Or.inr ⟨text, List.mem_cons_of_mem _ htext, hc⟩

theorem notMem_joined (h : WellFormedParameters parameters) :
    ∀ c ∈ joined parameters, c ≠ '#'.toUInt8 := by
  intro c hc
  rcases mem_intercalate hc with rfl | ⟨text, htext, hc⟩
  · decide
  · obtain ⟨entry, hentry, rfl⟩ := List.mem_map.mp htext
    exact ((h.entry hentry).2.2 c hc).2

theorem nameOf_entryText {entry : Text × Text} (hequals : '='.toUInt8 ∉ entry.1) :
    nameOf (entryText entry) = entry.1 ∧ valueOf (entryText entry) = entry.2 := by
  have hfront : ∀ c ∈ entry.1, (c != '='.toUInt8) = true := by
    intro c hc
    rw [bne_iff_ne]
    exact fun heq => hequals (heq ▸ hc)
  have hstop : ∀ c ∈ ('='.toUInt8 :: entry.2).head?, (c != '='.toUInt8) = false := by
    intro c hc
    rw [List.head?_cons, Option.mem_some] at hc
    rw [← hc]
    rfl
  refine ⟨takeWhile_append_stop hfront hstop, ?_⟩
  rw [valueOf, entryText, dropWhile_append_stop hfront hstop, List.tail_cons]

/-- Without a `?` in front, the pieces are the parameters. -/
theorem pieces_joined (h : WellFormedParameters parameters) (hnonempty : parameters.toList ≠ [])
    (hquestion : (joined parameters).head? ≠ some '?'.toUInt8) :
    pieces (joined parameters) = parameters.toList.map entryText := by
  rw [pieces, if_neg hquestion]
  apply List.splitOn_intercalate
  · intro text htext hmem
    obtain ⟨entry, hentry, rfl⟩ := List.mem_map.mp htext
    exact ((h.entry hentry).2.2 _ hmem).1 rfl
  · rwa [ne_eq, List.map_eq_nil_iff]

theorem foldl_entries (h : WellFormedParameters parameters) (entries : List (Text × Text))
    (hentries : ∀ entry ∈ entries, entry ∈ parameters.toList) (start : Parameters) :
    (entries.map entryText).foldl appendPiece start =
      entries.foldl (fun parameters entry => parameters.insert entry.1 entry.2) start := by
  induction entries generalizing start with
  | nil => rfl
  | cons entry entries ih =>
    obtain ⟨hname, hequals, -⟩ := h.entry (hentries entry List.mem_cons_self)
    obtain ⟨hnameOf, hvalueOf⟩ := nameOf_entryText hequals
    rw [List.map_cons, List.foldl_cons, List.foldl_cons,
      ih fun other hother => hentries other (List.mem_cons_of_mem _ hother)]
    congr 1
    rw [appendPiece, hnameOf, hvalueOf, List.isEmpty_eq_false_iff.mpr hname,
      if_neg Bool.false_ne_true]

/-- Putting in the entries of a map gives the map. -/
theorem foldl_insert_toList (parameters : Parameters) :
    parameters.toList.foldl (fun parameters entry => parameters.insert entry.1 entry.2) ∅ =
      parameters := by
  have hlist : parameters.toList.foldl (fun parameters entry =>
      parameters.insert entry.1 entry.2) ∅ = ExtTreeMap.ofList parameters.toList compare :=
    ExtTreeMap.ofList_eq_foldl.symm
  rw [hlist]
  apply ExtTreeMap.ext_getElem?
  intro name
  cases hname : parameters[name]? with
  | none =>
    apply ExtTreeMap.getElem?_ofList_of_contains_eq_false
    rw [← Bool.not_eq_true, List.contains_iff_mem]
    intro hmem
    obtain ⟨entry, hentry, rfl⟩ := List.mem_map.mp hmem
    rw [ExtTreeMap.mem_toList_iff_getElem?_eq_some.mp hentry] at hname
    cases hname
  | some value =>
    exact ExtTreeMap.getElem?_ofList_of_mem compare_self ExtTreeMap.distinct_keys_toList
      (ExtTreeMap.mem_toList_iff_getElem?_eq_some.mpr hname)

/-- The printed parameters are read again, unless a `?` stands in front of them. -/
theorem foldl_pieces_joined (h : WellFormedParameters parameters)
    (hquestion : (joined parameters).head? ≠ some '?'.toUInt8) :
    (pieces (joined parameters)).foldl appendPiece ∅ = parameters := by
  by_cases hempty : parameters.toList = []
  · have hjoined : joined parameters = [] := by
      rw [joined, hempty]
      rfl
    rw [hjoined, foldl_pieces_nil, ← foldl_insert_toList parameters, hempty]
    rfl
  · rw [pieces_joined h hempty hquestion, foldl_entries h _ fun _ hentry => hentry,
      foldl_insert_toList]

/-- With a `?` in front the first name is another one. -/
theorem foldl_pieces_joined_ne (h : WellFormedParameters parameters)
    (hquestion : (joined parameters).head? = some '?'.toUInt8) :
    (pieces (joined parameters)).foldl appendPiece ∅ ≠ parameters := by
  intro hsame
  cases hentries : parameters.toList with
  | nil =>
    rw [joined, hentries] at hquestion
    cases hquestion
  | cons first entries =>
    have hfirst : first ∈ parameters.toList := by
      rw [hentries]
      exact List.mem_cons_self
    have hrest : ∀ entry ∈ entries, entry ∈ parameters.toList := by
      intro entry hentry
      rw [hentries]
      exact List.mem_cons_of_mem _ hentry
    obtain ⟨hname, hequals, hinside⟩ := h.entry hfirst
    obtain ⟨c, name, hcons⟩ := List.exists_cons_of_ne_nil hname
    have hjoined : joined parameters = c :: ['&'.toUInt8].intercalate
        (entryText (name, first.2) :: entries.map entryText) := by
      rw [joined, hentries, List.map_cons]
      have htext : entryText first = c :: entryText (name, first.2) := by
        rw [entryText, hcons]
        rfl
      rw [htext]
      cases entries with
      | nil => rfl
      | cons other entries => rfl
    have hc : c = '?'.toUInt8 := by
      rw [hjoined, List.head?_cons] at hquestion
      exact Option.some.inj hquestion
    subst hc
    have hpieces : pieces (joined parameters) =
        entryText (name, first.2) :: entries.map entryText := by
      rw [pieces, if_pos hquestion, hjoined, List.tail_cons]
      apply List.splitOn_intercalate
      · intro text htext hmem
        rcases List.mem_cons.mp htext with rfl | htext
        · refine (hinside _ ?_).1 rfl
          rw [entryText, hcons]
          exact List.mem_cons_of_mem _ hmem
        · obtain ⟨entry, hentry, rfl⟩ := List.mem_map.mp htext
          exact ((h.entry (hrest entry hentry)).2.2 _ hmem).1 rfl
      · exact List.cons_ne_nil _ _
    -- no piece has the first name, which the map has
    have hlookup := ExtTreeMap.mem_toList_iff_getElem?_eq_some.mp hfirst
    rw [← hsame, getElem?_pieces] at hlookup
    obtain ⟨piece, hmem, hpiece, -⟩ := hlookup.exists_piece
    rw [hpieces] at hmem
    rcases List.mem_cons.mp hmem with rfl | hmem
    · have hshort : '='.toUInt8 ∉ name := by
        rw [hcons] at hequals
        exact fun hin => hequals (List.mem_cons_of_mem _ hin)
      rw [(@nameOf_entryText (name, first.2) hshort).1, hcons] at hpiece
      exact List.cons_ne_self _ _ hpiece.symm
    · obtain ⟨entry, hentry, rfl⟩ := List.mem_map.mp hmem
      rw [(nameOf_entryText (h.entry (hrest entry hentry)).2.1).1] at hpiece
      have hdistinct := @ExtTreeMap.distinct_keys_toList _ _ _ parameters _
      rw [hentries, List.pairwise_cons] at hdistinct
      apply hdistinct.1 entry hentry
      rw [Std.compare_eq_iff_eq]
      exact hpiece.symm

end Joined

section Reading

variable {url : Url}

theorem readsPort_portText (url : Url) : ReadsPort (portText url) url.port := by
  unfold portText
  split
  · refine Or.inr ⟨decimal url.port.toNat, url.port.toNat, rfl, isDigit_decimal _,
      stoi_decimal ?_, ?_, ?_⟩
    · have := url.port.toNat_lt
      omega
    · have := url.port.toNat_lt
      omega
    · exact (UInt16.ofNat_toNat).symm
  · rename_i hzero
    exact Or.inl ⟨rfl, not_not.mp hzero⟩

theorem printedRest_head (url : Url) :
    ∀ c ∈ (printedRest url).head?, c = '/'.toUInt8 ∨ c = '?'.toUInt8 := by
  intro c hc
  unfold printedRest printedPath at hc
  rw [formatEncodedUrlQueryParameters_eq] at hc
  cases hpath : url.encodedPath with
  | nil =>
    rw [hpath] at hc
    simp only [List.isEmpty_nil, true_or, if_true, List.nil_append] at hc
    split at hc
    · cases hc
    · right
      exact (Option.mem_some.mp hc).symm
  | cons first path =>
    left
    rw [hpath] at hc
    split at hc
    · rename_i hslash
      rcases hslash with hempty | hslash
      · cases hempty
      · rw [List.cons_append, List.head?_cons] at hc
        rw [List.head?_cons] at hslash
        rw [hslash] at hc
        exact (Option.mem_some.mp hc).symm
    · exact (Option.mem_some.mp hc).symm

/-- The parts of a printed text are the ones that were printed, if without a scheme nothing
    reads like one. -/
theorem cut_getAbsoluteUrl (h : WellFormed url)
    (hscheme : url.scheme = [] →
      ¬ ascii "://" <:+: url.host ++ (portText url ++ printedRest url)) :
    Cut url.getAbsoluteUrl url.scheme url.host (portText url) (printedRest url) url.port := by
  refine ⟨?_, h.host, readsPort_portText url, printedRest_head url⟩
  rw [getAbsoluteUrl_eq]
  by_cases hempty : url.scheme = []
  · rw [hempty, List.isEmpty_nil, if_pos rfl, List.nil_append]
    have hnone := find_eq_none_iff.mpr (hscheme hempty)
    simp only [Url.readScheme, hnone]
  · rw [List.isEmpty_eq_false_iff.mpr hempty, if_neg Bool.false_ne_true]
    have hfind := h.scheme
    rw [← @find_append_iff _ _ _ _ _ (url.host ++ (portText url ++ printedRest url)) _
      (by rw [List.length_append])] at hfind
    have hlower := h.lower
    have htake : ((url.scheme ++ ascii "://") ++
        (url.host ++ (portText url ++ printedRest url))).take url.scheme.length =
          url.scheme := by
      rw [List.append_assoc, List.take_left]
    have hdrop : ((url.scheme ++ ascii "://") ++
        (url.host ++ (portText url ++ printedRest url))).drop (url.scheme.length + 3) =
          url.host ++ (portText url ++ printedRest url) :=
      List.drop_left' (by rw [List.length_append]; rfl)
    simp only [Url.readScheme, hfind, htake, hdrop, hlower]

theorem format_head (parameters : Parameters) :
    ∀ c ∈ (formatEncodedUrlQueryParameters parameters).head?, c = '?'.toUInt8 := by
  intro c hc
  rw [formatEncodedUrlQueryParameters_eq] at hc
  split at hc
  · cases hc
  · exact (Option.mem_some.mp hc).symm

theorem inside_printedPath (h : WellFormed url) :
    ∀ c ∈ printedPath url, (!Url.isPathEnd c) = true := by
  intro c hc
  unfold printedPath at hc
  split at hc
  · rw [h.path c hc, Bool.not_false]
  · rcases List.mem_cons.mp hc with rfl | hc
    · rfl
    · rw [h.path c hc, Bool.not_false]

theorem format_stop (url : Url) :
    ∀ c ∈ (formatEncodedUrlQueryParameters url.encodedQueryParameters).head?,
      (!Url.isPathEnd c) = false := by
  intro c hc
  rw [format_head _ c hc]
  rfl

/-- A slash in front of the path is taken for the one that the printer puts there. -/
theorem pathText_printedRest (h : WellFormed url) :
    pathText (printedRest url) =
      if url.encodedPath.head? = some '/'.toUInt8 then url.encodedPath.tail
      else url.encodedPath := by
  rw [pathText, printedRest,
    takeWhile_append_stop (inside_printedPath h) (format_stop url), printedPath]
  cases hpath : url.encodedPath with
  | nil => rfl
  | cons c path =>
    by_cases hslash : c = '/'.toUInt8
    · simp [hslash]
    · simp [hslash]

theorem queryText_printedRest (h : WellFormed url) :
    queryText (printedRest url) = joined url.encodedQueryParameters := by
  rw [queryText, printedRest,
    dropWhile_append_stop (inside_printedPath h) (format_stop url),
    formatEncodedUrlQueryParameters_eq]
  by_cases hempty : url.encodedQueryParameters.toList = []
  · rw [joined, hempty]
    rfl
  · rw [List.isEmpty_eq_false_iff.mpr hempty, if_neg Bool.false_ne_true, List.head?_cons,
      if_pos rfl, List.tail_cons]
    apply takeWhile_all
    intro c hc
    rw [bne_iff_ne]
    exact notMem_joined h.parameters c hc

/-- **What reading a printed URL gives.**  Scheme, host and port come back if without a scheme
    nothing reads like one; the path loses a slash in front, and the query a `?`. -/
theorem new_getAbsoluteUrl (h : WellFormed url)
    (hscheme : url.scheme = [] →
      ¬ ascii "://" <:+: url.host ++ (portText url ++ printedRest url)) :
    Url.new url.getAbsoluteUrl = .ok
      { scheme := url.scheme
        host := url.host
        port := url.port
        encodedPath :=
          if url.encodedPath.head? = some '/'.toUInt8 then url.encodedPath.tail
          else url.encodedPath
        encodedQueryParameters :=
          (pieces (joined url.encodedQueryParameters)).foldl appendPiece ∅ } := by
  rw [new_of_cut (cut_getAbsoluteUrl h hscheme), pathText_printedRest h, queryText_printedRest h]

/-! ### What reads like a scheme -/

theorem exists_digit_decimal (n : Nat) : ∃ digit digits, decimal n = digit :: digits ∧
    isDigit digit = true ∧ ':'.toUInt8 ∉ digits := by
  have hnonempty : decimal n ≠ [] := by
    rw [decimal, ne_eq, List.map_eq_nil_iff]
    exact Nat.toDigits_ne_nil
  obtain ⟨digit, digits, hdecimal⟩ := List.exists_cons_of_ne_nil hnonempty
  have hdigits := isDigit_decimal n
  rw [hdecimal] at hdigits
  refine ⟨digit, digits, hdecimal, hdigits digit List.mem_cons_self, ?_⟩
  intro hcolon
  have hwrong := hdigits _ (List.mem_cons_of_mem _ hcolon)
  exact absurd hwrong (by decide)

theorem colon_notMem_host (h : WellFormed url) : ':'.toUInt8 ∉ url.host := by
  intro hcolon
  exact absurd (h.host _ hcolon) (by decide)

/-- The printed text does not begin with `://` when there is no scheme. -/
theorem not_prefix_behind (h : WellFormed url) :
    ¬ ascii "://" <+: url.host ++ (portText url ++ printedRest url) := by
  have hscheme : ascii "://" = ':'.toUInt8 :: ['/'.toUInt8, '/'.toUInt8] := rfl
  rw [hscheme]
  cases hhost : url.host with
  | cons c host =>
    rw [List.cons_append, List.cons_prefix_cons]
    rintro ⟨rfl, -⟩
    exact colon_notMem_host h (hhost ▸ List.mem_cons_self)
  | nil =>
    rw [List.nil_append, portText]
    split
    · obtain ⟨digit, digits, hdecimal, hdigit, -⟩ := exists_digit_decimal url.port.toNat
      rw [hdecimal, List.cons_append, List.cons_append, List.cons_prefix_cons,
        List.cons_prefix_cons]
      rintro ⟨-, rfl, -⟩
      exact absurd hdigit (by decide)
    · rw [List.nil_append]
      intro hstarts
      cases hrest : printedRest url with
      | nil =>
        rw [hrest] at hstarts
        cases List.prefix_nil.mp hstarts
      | cons c rest =>
        rw [hrest, List.cons_prefix_cons] at hstarts
        obtain ⟨rfl, -⟩ := hstarts
        have hhead := printedRest_head url ':'.toUInt8 (by rw [hrest]; rfl)
        exact absurd hhead (by decide)

/-- Without a scheme, what reads like one is read as one. -/
theorem scheme_of_reread (h : WellFormed url) (hempty : url.scheme = [])
    (hoccurs : ascii "://" <:+: url.host ++ (portText url ++ printedRest url))
    {reread : Url} (hnew : Url.new url.getAbsoluteUrl = .ok reread) : reread.scheme ≠ [] := by
  intro hscheme
  obtain ⟨_, _, hcut, -⟩ := new_eq_ok hnew
  have hread := hcut.scheme
  have htext : url.getAbsoluteUrl = url.host ++ (portText url ++ printedRest url) := by
    rw [getAbsoluteUrl_eq, hempty, List.isEmpty_nil, if_pos rfl, List.nil_append]
  rw [htext, Url.readScheme] at hread
  cases hfind : find (ascii "://") (url.host ++ (portText url ++ printedRest url)) with
  | none => exact find_eq_none_iff.mp hfind hoccurs
  | some schemePos =>
    rw [hfind] at hread
    obtain ⟨hat, hle, -⟩ := find_eq_some_iff.mp hfind
    have hnone := congrArg Prod.fst hread
    simp only [hscheme, toLower, List.map_eq_nil_iff, List.take_eq_nil_iff] at hnone
    have hstart : schemePos = 0 := by
      rcases hnone with hzero | hnil
      · exact hzero
      · rw [hnil] at hle
        simpa using hle
    rw [hstart, List.drop_zero] at hat
    exact not_prefix_behind h hat

theorem infix_intercalate_iff {pattern : Text} (hpattern : pattern ≠ [])
    (hseparator : '&'.toUInt8 ∉ pattern) (texts : List Text) :
    pattern <:+: ['&'.toUInt8].intercalate texts ↔ ∃ text ∈ texts, pattern <:+: text := by
  induction texts with
  | nil => simp [hpattern]
  | cons text texts ih =>
    cases texts with
    | nil => simp
    | cons other texts =>
      rw [List.intercalate_cons_cons, List.append_assoc, List.singleton_append,
        infix_append_cons_iff hseparator, ih]
      simp only [List.exists_mem_cons_iff]

/-- Where `://` can stand behind the scheme: in the path, or in a parameter. -/
theorem occurs_behind_iff (h : WellFormed url) :
    ascii "://" <:+: url.host ++ (portText url ++ printedRest url) ↔
      ascii "://" <:+: url.encodedPath ∨
      ∃ name value, url.encodedQueryParameters[name]? = some value ∧
        (ascii "://" <:+: name ∨ ascii "://" <:+: value) := by
  have hscheme : ascii "://" = ':'.toUInt8 :: ['/'.toUInt8, '/'.toUInt8] := rfl
  have hport : ascii "://" <:+: portText url ++ printedRest url ↔
      ascii "://" <:+: printedRest url := by
    rw [portText]
    split
    · obtain ⟨digit, digits, hdecimal, hdigit, hdigits⟩ := exists_digit_decimal url.port.toNat
      have hnot : digit ∉ ascii "://" := by
        intro hmem
        have hall : (ascii "://").all (fun c => !isDigit c) = true := by decide
        have hnot := List.all_eq_true.mp hall digit hmem
        rw [hdigit] at hnot
        cases hnot
      have hcolon : ¬ ascii "://" <:+: [':'.toUInt8] := by decide
      have hsplit : ':'.toUInt8 :: decimal url.port.toNat ++ printedRest url =
          [':'.toUInt8] ++ digit :: (digits ++ printedRest url) := by
        rw [hdecimal]
        rfl
      rw [hsplit, infix_append_cons_iff hnot, or_iff_right hcolon, hscheme,
        infix_append_iff_of_head_notMem hdigits]
    · rw [List.nil_append]
  have hpath : ascii "://" <:+: printedPath url ↔ ascii "://" <:+: url.encodedPath := by
    rw [printedPath]
    split
    · rfl
    · rw [List.infix_cons_iff, or_iff_right]
      intro hstarts
      rw [hscheme, List.cons_prefix_cons] at hstarts
      exact absurd hstarts.1 (by decide)
  have hquery : ascii "://" <:+: joined url.encodedQueryParameters ↔
      ∃ name value, url.encodedQueryParameters[name]? = some value ∧
        (ascii "://" <:+: name ∨ ascii "://" <:+: value) := by
    rw [joined, infix_intercalate_iff (by decide) (by decide)]
    constructor
    · rintro ⟨text, htext, hoccurs⟩
      obtain ⟨entry, hentry, rfl⟩ := List.mem_map.mp htext
      rw [entryText, infix_append_cons_iff (by decide)] at hoccurs
      exact ⟨entry.1, entry.2, ExtTreeMap.mem_toList_iff_getElem?_eq_some.mp hentry, hoccurs⟩
    · rintro ⟨name, value, hvalue, hoccurs⟩
      refine ⟨entryText (name, value), List.mem_map_of_mem
        (ExtTreeMap.mem_toList_iff_getElem?_eq_some.mpr hvalue), ?_⟩
      rw [entryText, infix_append_cons_iff (by decide)]
      exact hoccurs
  have hbehind : ascii "://" <:+: printedRest url ↔
      ascii "://" <:+: printedPath url ∨ ascii "://" <:+: joined url.encodedQueryParameters := by
    rw [printedRest, formatEncodedUrlQueryParameters_eq]
    by_cases hempty : url.encodedQueryParameters.toList = []
    · rw [joined, hempty, List.isEmpty_nil, if_pos rfl, List.append_nil, or_iff_left]
      decide
    · rw [List.isEmpty_eq_false_iff.mpr hempty, if_neg Bool.false_ne_true,
        infix_append_cons_iff (by decide)]
      rfl
  rw [hscheme, infix_append_iff_of_head_notMem (colon_notMem_host h), ← hscheme, hport, hbehind,
    hpath, hquery]

end Reading

/-! ## 4. The texts whose URL reads back -/

/-- What comes behind the scheme. -/
def behindScheme (text : Text) : Text :=
  match find (ascii "://") text with
  | some schemePos => text.drop (schemePos + 3)
  | none => text

/-- What comes behind host and port. -/
def behindAuthority (text : Text) : Text :=
  (behindScheme text).dropWhile fun c => c != '/'.toUInt8 && c != '?'.toUInt8

/-- The texts on which the printer and the constructor agree: the path does not begin with a
    second slash; no parameter's name begins with `?`, or one begins with a smaller byte and
    is printed first; and where the scheme is empty, neither the path nor a parameter has
    `://` in it. -/
structure ReadsBack (text : Text) : Prop where
  path : ¬ ascii "//" <+: behindAuthority text
  query : ∀ name value, GivesParameter (queryText (behindAuthority text)) name value →
    name.head? = some '?'.toUInt8 →
      ∃ other value c, GivesParameter (queryText (behindAuthority text)) other value ∧
        other.head? = some c ∧ c < '?'.toUInt8
  scheme : ascii "://" <+: text →
    ¬ ascii "://" <:+: pathText (behindAuthority text) ∧
    ∀ name value, GivesParameter (queryText (behindAuthority text)) name value →
      ¬ ascii "://" <:+: name ∧ ¬ ascii "://" <:+: value

section ReadsBack

variable {text : Text} {url : Url}

theorem readScheme_eq (text : Text) : (Url.readScheme text).2 = behindScheme text := by
  unfold Url.readScheme behindScheme
  cases find (ascii "://") text with
  | none => rfl
  | some schemePos => rfl

/-- The parts behind host and port are found in the text itself. -/
theorem behindAuthority_of_cut {scheme host portText rest : Text} {port : UInt16}
    (h : Cut text scheme host portText rest port) : behindAuthority text = rest := by
  have hbehind : behindScheme text = (host ++ portText) ++ rest := by
    rw [← readScheme_eq, h.scheme, List.append_assoc]
  rw [behindAuthority, hbehind]
  apply dropWhile_append_stop
  · intro c hc
    rcases List.mem_append.mp hc with hc | hc
    · have hhost := h.host c hc
      simp only [Url.isHostEnd, Bool.or_eq_false_iff, beq_eq_false_iff_ne] at hhost
      simp [hhost.1.1, hhost.1.2]
    · rcases h.port with ⟨rfl, -⟩ | ⟨digits, value, rfl, hdigits, -⟩
      · cases hc
      · rcases List.mem_cons.mp hc with rfl | hc
        · rfl
        · have hdigit := hdigits c hc
          by_contra hend
          simp only [Bool.and_eq_true, bne_iff_ne, not_and_or, not_not] at hend
          rcases hend with rfl | rfl <;> exact absurd hdigit (by decide)
  · intro c hc
    rcases h.rest c hc with rfl | rfl <;> rfl

/-- A text that begins with `://` has no scheme. -/
theorem scheme_of_front {scheme host portText rest : Text} {port : UInt16}
    (h : Cut text scheme host portText rest port) (hstarts : ascii "://" <+: text) :
    scheme = [] := by
  have hfind : find (ascii "://") text = some 0 := by
    rw [find_eq_some_iff]
    exact ⟨hstarts, Nat.zero_le _, by simp⟩
  have hread := congrArg Prod.fst h.scheme
  rw [Url.readScheme, hfind] at hread
  exact hread.symm

/-- Without a scheme, and without `://` in front, there is no `://`. -/
theorem not_infix_of_scheme {scheme host portText rest : Text} {port : UInt16}
    (h : Cut text scheme host portText rest port) (hempty : scheme = [])
    (hstarts : ¬ ascii "://" <+: text) : ¬ ascii "://" <:+: text := by
  intro hoccurs
  cases hfind : find (ascii "://") text with
  | none => exact find_eq_none_iff.mp hfind hoccurs
  | some schemePos =>
    obtain ⟨hat, hle, -⟩ := find_eq_some_iff.mp hfind
    have hread := congrArg Prod.fst h.scheme
    rw [Url.readScheme, hfind, hempty] at hread
    simp only [toLower, List.map_eq_nil_iff, List.take_eq_nil_iff] at hread
    rcases hread with rfl | rfl
    · exact hstarts hat
    · exact absurd hoccurs (by decide)

/-- What occurs in the text matters without a scheme only if the text begins with `://`. -/
theorem scheme_eq_nil_imp_iff {scheme host portText rest : Text} {port : UInt16}
    (h : Cut text scheme host portText rest port) {occurs : Prop}
    (hpart : occurs → ascii "://" <:+: text) :
    (scheme = [] → ¬ occurs) ↔ (ascii "://" <+: text → ¬ occurs) := by
  constructor
  · intro hscheme hstarts
    exact hscheme (scheme_of_front h hstarts)
  · intro hfront hempty hoccurs
    by_cases hstarts : ascii "://" <+: text
    · exact hfront hstarts hoccurs
    · exact not_infix_of_scheme h hempty hstarts (hpart hoccurs)

/-- Path, names and values are parts of the text. -/
theorem pathText_part (rest : Text) : pathText rest <:+: rest :=
  List.IsInfix.trans (List.IsSuffix.isInfix (List.tail_suffix _))
    (List.IsPrefix.isInfix (List.takeWhile_prefix _))

theorem behindAuthority_part (text : Text) : behindAuthority text <:+: text := by
  have hbehind : behindScheme text <:+ text := by
    unfold behindScheme
    split
    · exact List.drop_suffix _ text
    · exact List.suffix_refl text
  exact List.IsSuffix.isInfix ((List.dropWhile_suffix _).trans hbehind)

theorem queryText_part (rest : Text) : queryText rest <:+: rest := by
  unfold queryText
  split
  · exact List.IsInfix.trans (List.IsPrefix.isInfix (List.takeWhile_prefix _))
      (List.IsSuffix.isInfix ((List.tail_suffix _).trans (List.dropWhile_suffix _)))
  · exact List.nil_infix

theorem GivesParameter.parts {query name value : Text} (h : GivesParameter query name value) :
    name <:+: query ∧ value <:+: query := by
  obtain ⟨piece, hmem, rfl, rfl⟩ := h.exists_piece
  have hpart := (mem_pieces hmem).2
  exact ⟨List.IsInfix.trans (nameOf_part piece) hpart,
    List.IsInfix.trans (valueOf_part piece) hpart⟩

/-- Of two texts in order, the first byte is not larger. -/
theorem le_of_compare_cons {c c' : UInt8} {name name' : Text}
    (hlt : compare (c :: name) (c' :: name') = .lt) : c ≤ c' := by
  by_contra hgreater
  have hgt : compare c c' = .gt := by
    rw [Std.compare_eq_gt]
    exact Std.not_le.mp hgreater
  rw [List.compare_cons_cons, hgt] at hlt
  cases hlt

/-- Which name the printer puts first decides whether a `?` stands in front. -/
theorem joined_head_iff {parameters : Parameters} (h : WellFormedParameters parameters) :
    (joined parameters).head? = some '?'.toUInt8 ↔
      ∃ name value : Text, parameters[name]? = some value ∧ name.head? = some '?'.toUInt8 ∧
        ∀ (other value : Text) c, parameters[other]? = some value → other.head? = some c →
          ¬ c < '?'.toUInt8 := by
  have hsorted := @ExtTreeMap.ordered_keys_toList _ _ _ parameters _
  cases hentries : parameters.toList with
  | nil =>
    rw [joined, hentries]
    refine ⟨nofun, ?_⟩
    rintro ⟨name, value, hvalue, -⟩
    have hmem := ExtTreeMap.mem_toList_iff_getElem?_eq_some.mpr hvalue
    rw [hentries] at hmem
    cases hmem
  | cons first entries =>
    have hfirst : first ∈ parameters.toList := by
      rw [hentries]
      exact List.mem_cons_self
    obtain ⟨c, name, hcons⟩ := List.exists_cons_of_ne_nil (h.entry hfirst).1
    have hjoined : (joined parameters).head? = some c := by
      rw [joined, hentries, List.map_cons, entryText, hcons]
      cases entries <;> rfl
    -- no name begins with a smaller byte than the first one
    have hleast : ∀ (other value : Text) c', parameters[other]? = some value →
        other.head? = some c' → c ≤ c' := by
      intro other value c' hvalue hhead
      have hmem := ExtTreeMap.mem_toList_iff_getElem?_eq_some.mpr hvalue
      rw [hentries] at hmem hsorted
      rcases List.mem_cons.mp hmem with heq | hmem
      · have hname : other = first.1 := congrArg Prod.fst heq
        rw [hname, hcons, List.head?_cons] at hhead
        exact Std.le_of_eq (Option.some.inj hhead)
      · have hlt := (List.pairwise_cons.mp hsorted).1 _ hmem
        obtain ⟨other', rfl⟩ := List.head?_eq_some_iff.mp hhead
        exact le_of_compare_cons (hcons ▸ hlt)
    rw [hjoined, Option.some.injEq]
    constructor
    · rintro rfl
      refine ⟨first.1, first.2, ExtTreeMap.mem_toList_iff_getElem?_eq_some.mp hfirst, ?_, ?_⟩
      · rw [hcons, List.head?_cons]
      · intro other value c' hvalue hhead
        exact Std.not_lt.mpr (hleast other value c' hvalue hhead)
    · rintro ⟨other, value, hvalue, hhead, hnone⟩
      have hle := hleast other value _ hvalue hhead
      have hge := Std.not_lt.mp (hnone first.1 first.2 c
        (ExtTreeMap.mem_toList_iff_getElem?_eq_some.mp hfirst) (by rw [hcons, List.head?_cons]))
      exact Std.le_antisymm hle hge

/-- A path that loses its slash is another one. -/
theorem path_reread_iff (path : Text) :
    (if path.head? = some '/'.toUInt8 then path.tail else path) = path ↔
      path.head? ≠ some '/'.toUInt8 := by
  cases path with
  | nil => simp
  | cons c path =>
    by_cases hslash : c = '/'.toUInt8
    · simp [hslash]
    · simp [hslash]

/-- A URL that can be printed and read reads back unless one of three things is so. -/
theorem reread_iff_of_wellFormed (h : WellFormed url) :
    Url.new url.getAbsoluteUrl = .ok url ↔
      url.encodedPath.head? ≠ some '/'.toUInt8 ∧
      (joined url.encodedQueryParameters).head? ≠ some '?'.toUInt8 ∧
      (url.scheme = [] → ¬ ascii "://" <:+: url.host ++ (portText url ++ printedRest url)) := by
  constructor
  · intro hsame
    have hscheme : url.scheme = [] →
        ¬ ascii "://" <:+: url.host ++ (portText url ++ printedRest url) :=
      fun hempty hoccurs => scheme_of_reread h hempty hoccurs hsame hempty
    rw [new_getAbsoluteUrl h hscheme, Except.ok.injEq] at hsame
    have hpath := congrArg Url.encodedPath hsame
    have hparameters := congrArg Url.encodedQueryParameters hsame
    refine ⟨(path_reread_iff _).mp hpath, ?_, hscheme⟩
    intro hquestion
    exact foldl_pieces_joined_ne h.parameters hquestion hparameters
  · rintro ⟨hpath, hquestion, hscheme⟩
    rw [new_getAbsoluteUrl h hscheme, (path_reread_iff _).mpr hpath,
      foldl_pieces_joined h.parameters hquestion]

/-- The path of a text begins with a slash if a second one stands in front of it. -/
theorem pathText_head_iff {rest : Text}
    (hrest : ∀ c ∈ rest.head?, c = '/'.toUInt8 ∨ c = '?'.toUInt8) :
    (pathText rest).head? = some '/'.toUInt8 ↔ ascii "//" <+: rest := by
  have hslashes : ascii "//" = ['/'.toUInt8, '/'.toUInt8] := rfl
  rw [hslashes]
  cases rest with
  | nil => decide
  | cons c rest =>
    rcases hrest c rfl with rfl | rfl
    · have hpath : pathText ('/'.toUInt8 :: rest) = rest.takeWhile (!Url.isPathEnd ·) := rfl
      rw [hpath, List.cons_prefix_cons, and_iff_right rfl]
      cases rest with
      | nil => decide
      | cons c rest =>
        rw [List.cons_prefix_cons, and_iff_left List.nil_prefix]
        by_cases hslash : c = '/'.toUInt8
        · subst hslash
          exact iff_of_true rfl rfl
        · refine iff_of_false ?_ (fun heq => hslash heq.symm)
          rw [List.takeWhile_cons]
          split
          · rw [List.head?_cons]
            exact fun heq => hslash (Option.some.inj heq)
          · nofun
    · have hpath : pathText ('?'.toUInt8 :: rest) = [] := rfl
      rw [hpath, List.cons_prefix_cons]
      exact iff_of_false nofun (fun hboth => absurd hboth.1 (by decide))

/-- The occurrences in path and parameters are occurrences in the text. -/
theorem part_of_path_or_parameter {occurrence : Text}
    (hoccurs : occurrence <:+: pathText (behindAuthority text) ∨
      ∃ name value, GivesParameter (queryText (behindAuthority text)) name value ∧
        (occurrence <:+: name ∨ occurrence <:+: value)) :
    occurrence <:+: text := by
  rcases hoccurs with hoccurs | ⟨name, value, hgives, hoccurs⟩
  · exact List.IsInfix.trans hoccurs
      (List.IsInfix.trans (pathText_part _) (behindAuthority_part text))
  · have hquery := List.IsInfix.trans (queryText_part _) (behindAuthority_part text)
    rcases hoccurs with hoccurs | hoccurs
    · exact List.IsInfix.trans hoccurs (List.IsInfix.trans hgives.parts.1 hquery)
    · exact List.IsInfix.trans hoccurs (List.IsInfix.trans hgives.parts.2 hquery)

/-- The parameters of the URL of a text. -/
theorem getElem?_parameters_of_new (hnew : Url.new text = .ok url) (name value : Text) :
    url.encodedQueryParameters[name]? = some value ↔
      GivesParameter (queryText (behindAuthority text)) name value := by
  obtain ⟨_, rest, hcut, -, hparameters⟩ := new_eq_ok hnew
  rw [hparameters, getElem?_pieces, behindAuthority_of_cut hcut]

/-- **Printed URLs and the constructor.**  The URL of an accepted text reads back as itself
    from what `GetAbsoluteUrl` prints exactly when the text is one of `ReadsBack`. -/
theorem reread_iff (text : Text) (url : Url) (hnew : Url.new text = .ok url) :
    Url.new url.getAbsoluteUrl = .ok url ↔ ReadsBack text := by
  have hwell := wellFormed_of_new hnew
  obtain ⟨_, rest, hcut, hpath, -⟩ := new_eq_ok hnew
  have hgives := getElem?_parameters_of_new hnew
  have hrest := behindAuthority_of_cut hcut
  subst hrest
  rw [reread_iff_of_wellFormed hwell, ne_eq, ne_eq, joined_head_iff hwell.parameters,
    occurs_behind_iff hwell, hpath, pathText_head_iff hcut.rest]
  simp only [hgives]
  rw [scheme_eq_nil_imp_iff hcut part_of_path_or_parameter]
  constructor
  · rintro ⟨hslash, hquestion, hscheme⟩
    refine ⟨hslash, ?_, ?_⟩
    · intro name value hname hhead
      by_contra hnone
      refine hquestion ⟨name, value, hname, hhead, ?_⟩
      intro other value' c hother hc hlt
      exact hnone ⟨other, value', c, hother, hc, hlt⟩
    · intro hstarts
      have hno := hscheme hstarts
      rw [not_or] at hno
      refine ⟨hno.1, ?_⟩
      intro name value hname
      exact ⟨fun hoccurs => hno.2 ⟨name, value, hname, Or.inl hoccurs⟩,
        fun hoccurs => hno.2 ⟨name, value, hname, Or.inr hoccurs⟩⟩
  · rintro ⟨hslash, hquery, hscheme⟩
    refine ⟨hslash, ?_, ?_⟩
    · rintro ⟨name, value, hname, hhead, hnone⟩
      obtain ⟨other, value', c, hother, hc, hlt⟩ := hquery name value hname hhead
      exact hnone other value' c hother hc hlt
    · intro hstarts
      obtain ⟨hno, hparameter⟩ := hscheme hstarts
      rintro (hoccurs | ⟨name, value, hname, hoccurs⟩)
      · exact hno hoccurs
      · exact hoccurs.elim (hparameter name value hname).1 (hparameter name value hname).2

end ReadsBack

/-! ### A text that reads back, and one that does not -/

theorem host_of_all {host : Text} (hall : (host.all fun c => !Url.isHostEnd c) = true) :
    ∀ c ∈ host, Url.isHostEnd c = false := by
  intro c hc
  simpa using List.all_eq_true.mp hall c hc

def listedParameters : Parameters :=
  (pieces (ascii "b=1&a=2")).foldl appendPiece ∅

theorem listed_accepted : Url.new (ascii "WS://host:80/rtc?b=1&a=2") = .ok
    ⟨ascii "ws", ascii "host", 80, ascii "rtc", listedParameters⟩ := by
  apply @new_of_cut _ _ _ (ascii ":80") (ascii "/rtc?b=1&a=2")
  refine ⟨by decide, host_of_all (by decide), Or.inr ⟨ascii "80", 80, rfl, ?_, rfl, by decide, rfl⟩,
    ?_⟩
  · exact List.all_eq_true.mp (by decide)
  · rintro c ⟨⟩
    exact Or.inl rfl

theorem reread_listed :
    Url.new (Url.getAbsoluteUrl
      ⟨ascii "ws", ascii "host", 80, ascii "rtc", listedParameters⟩) =
      .ok ⟨ascii "ws", ascii "host", 80, ascii "rtc", listedParameters⟩ := by
  rw [reread_iff _ _ listed_accepted]
  refine ⟨by decide, ?_, fun hstarts => absurd hstarts (by decide)⟩
  intro name value hgives hhead
  obtain ⟨piece, hmem, rfl, rfl⟩ := hgives.exists_piece
  have hpieces : pieces (queryText (behindAuthority (ascii "WS://host:80/rtc?b=1&a=2"))) =
      [ascii "b=1", ascii "a=2"] := by decide
  rw [hpieces, List.mem_cons, List.mem_singleton] at hmem
  rcases hmem with rfl | rfl <;> exact absurd hhead (by decide)

/-- Of the two slashes in front of the path one is dropped, and the printer adds none. -/
theorem doubled_slash_is_lost :
    ∃ url, Url.new (ascii "http://host//x") = .ok url ∧
      Url.new url.getAbsoluteUrl ≠ .ok url := by
  refine ⟨⟨ascii "http", ascii "host", 0, ascii "/x", ∅⟩, ?_, ?_⟩
  · rfl
  · have hreread : Url.new (Url.getAbsoluteUrl
        ⟨ascii "http", ascii "host", 0, ascii "/x", ∅⟩) =
          .ok ⟨ascii "http", ascii "host", 0, ascii "x", ∅⟩ := rfl
    rw [hreread, ne_eq, Except.ok.injEq, Url.mk.injEq]
    exact fun hsame => absurd hsame.2.2.2.1 (by decide)

end LivekitClient.Urls
