/-
  LivekitClient/Urls.lean
  =======================
  **URLs** (`Url` in `src/core/detail/uri.cpp` and `uri.h`).

  The constructor cuts a text into scheme, host, port, path and query parameters, and
  `GetAbsoluteUrl` puts one together again.  Neither looks at what the other does, and each
  has its own cases for what is empty: the constructor drops one `/` in front of the path and
  one `?` in front of the query, while the printer leaves out the `/` when the path has one
  and the `://` when the scheme is empty.

  This file has the two, and what the constructor reads: the parameters that the loop over
  the query puts into the map, and the parts of the texts that are accepted.
-/
import LivekitClient.TextSearch
import Mathlib.Data.List.Induction
import Mathlib.Data.List.TakeWhile
import Std.Data.ExtTreeMap

namespace LivekitClient.Urls

open Std
open LivekitClient.TextSearch

/-! ## 1. Texts -/

/-- `std::string`: bytes, of any encoding. -/
abbrev Text := List UInt8

/-- The text of an ASCII literal. -/
def ascii (literal : String) : Text := literal.toList.map Char.toUInt8

def isDigit (c : UInt8) : Bool := decide ('0'.toUInt8 ≤ c ∧ c ≤ '9'.toUInt8)

def toLowerChar (c : UInt8) : UInt8 :=
  if c < 'A'.toUInt8 ∨ 'Z'.toUInt8 < c then c else c + ('a'.toUInt8 - 'A'.toUInt8)

/-- `StringExtensions::ToLower`. -/
def toLower (text : Text) : Text := text.map toLowerChar

/-- `std::to_string` of a number that is not negative. -/
def decimal (n : Nat) : Text := (Nat.toDigits 10 n).map Char.toUInt8

/-- The exceptions of the URL functions, with their texts. -/
inductive Exception where
  | invalidArgument (what : String)
  | outOfRange (what : String)
  | runtimeError (what : String)
deriving DecidableEq, Repr

/-- `std::stoi` of a text that has only digits. -/
def stoi (digits : Text) : Except Exception Nat :=
  if digits.isEmpty then .error (.invalidArgument "stoi")
  else
    let value := digits.foldl (fun value c => 10 * value + (c - '0'.toUInt8).toNat) 0
    if 2147483648 ≤ value then .error (.outOfRange "stoi") else .ok value

/-! ## 2. URLs -/

/-- `std::map<std::string, std::string>`. -/
abbrev Parameters := ExtTreeMap Text Text

structure Url where
  scheme : Text := []
  host : Text := []
  port : UInt16 := 0
  encodedPath : Text := []
  encodedQueryParameters : Parameters := ∅

namespace Url

/-- The `=` that was found, if it is in front of the end. -/
def endOfKey (equals : Option Nat) (stop : Nat) : Nat :=
  match equals with
  | none => stop
  | some equals => if stop < equals then stop else equals

/-- The loop of `AppendQueryParameters`, from a position on. -/
def appendParametersFrom (query : Text) (position : Nat) (parameters : Parameters) : Parameters :=
  if position ≤ query.length then
    let separator := findFrom '&'.toUInt8 query position
    let stop := separator.getD query.length
    let equals := findFrom '='.toUInt8 query position
    let keyEnd := endOfKey equals stop
    let valueBegin := if keyEnd = stop then stop else keyEnd + 1
    let key := substr query position (keyEnd - position)
    let parameters :=
      if key.isEmpty then parameters
      else parameters.insert key (substr query valueBegin (stop - valueBegin))
    match h : separator with
    | none => parameters
    | some separator => appendParametersFrom query (separator + 1) parameters
  else parameters
termination_by query.length + 1 - position
decreasing_by
  have hle := le_of_findFrom h
  omega

def appendQueryParameters (url : Url) (query : Text) : Url :=
  let position := if query.head? = some '?'.toUInt8 then 1 else 0
  { url with encodedQueryParameters :=
      appendParametersFrom query position url.encodedQueryParameters }

/-- The scheme, and what comes behind it. -/
def readScheme (url : Text) : Text × Text :=
  match find (ascii "://") url with
  | some schemePos => (toLower (url.take schemePos), url.drop (schemePos + 3))
  | none => ([], url)

/-- The end of the host. -/
def isHostEnd (c : UInt8) : Bool :=
  c == '/'.toUInt8 || c == '?'.toUInt8 || c == ':'.toUInt8

/-- The end of the path. -/
def isPathEnd (c : UInt8) : Bool := c == '?'.toUInt8 || c == '#'.toUInt8

/-- The port behind a colon, and what comes behind it. -/
def readPort (url : Text) : Except Exception (UInt16 × Text) := do
  let portNumber ← stoi (url.takeWhile isDigit)
  if 65535 < portNumber then
    throw (.outOfRange
      "The port number is out of range. The max supported number is 65535.")
  return (portNumber.toUInt16, url.dropWhile isDigit)

/-- Path and query, from the `/` or `?` on that ends the host and port. -/
def readPathAndQuery (url : Url) (rest : Text) : Url :=
  let (encodedPath, rest) :=
    if rest.head? = some '/'.toUInt8 then
      (rest.tail.takeWhile (!isPathEnd ·), rest.tail.dropWhile (!isPathEnd ·))
    else ([], rest)
  let url := { url with encodedPath := encodedPath }
  if rest.head? = some '?'.toUInt8 then
    url.appendQueryParameters (rest.tail.takeWhile (· != '#'.toUInt8))
  else url

/-- The constructor `Url(std::string const& url)`. -/
def new (url : Text) : Except Exception Url := do
  let (scheme, rest) := readScheme url
  let host := rest.takeWhile (!isHostEnd ·)
  let rest := rest.dropWhile (!isHostEnd ·)
  if rest.isEmpty then
    return { scheme := scheme, host := host }
  let (port, rest) ←
    if rest.head? = some ':'.toUInt8 then readPort rest.tail else pure (0, rest)
  if rest.isEmpty then
    return { scheme := scheme, host := host, port := port }
  if rest.head? ≠ some '/'.toUInt8 ∧ rest.head? ≠ some '?'.toUInt8 then
    throw (.invalidArgument "The port number contains invalid characters.")
  return readPathAndQuery { scheme := scheme, host := host, port := port } rest

/-- `GetUrlWithoutQuery`. -/
def getUrlWithoutQuery (url : Url) (relative : Bool) : Text :=
  let authority :=
    if relative then []
    else
      (if url.scheme.isEmpty then [] else url.scheme ++ ascii "://") ++ url.host ++
        (if url.port ≠ 0 then ascii ":" ++ decimal url.port.toNat else [])
  if url.encodedPath.isEmpty then
    if relative then ascii "/" else authority
  else
    authority ++ (if url.encodedPath.head? ≠ some '/'.toUInt8 then ascii "/" else []) ++
      url.encodedPath

end Url

/-- `FormatEncodedUrlQueryParameters`. -/
def formatEncodedUrlQueryParameters (encodedQueryParameters : Parameters) : Text :=
  (encodedQueryParameters.toList.foldl (fun (queryStr, separator) q =>
    (queryStr ++ [separator] ++ q.1 ++ ascii "=" ++ q.2, '&'.toUInt8)) ([], '?'.toUInt8)).1

namespace Url

def getRelativeUrl (url : Url) : Text :=
  url.getUrlWithoutQuery true ++ formatEncodedUrlQueryParameters url.encodedQueryParameters

def getAbsoluteUrl (url : Url) : Text :=
  url.getUrlWithoutQuery false ++ formatEncodedUrlQueryParameters url.encodedQueryParameters

/-- `AppendQueryParameter`. -/
def appendQueryParameter (url : Url) (encodedKey encodedValue : Text) : Url :=
  { url with encodedQueryParameters := url.encodedQueryParameters.insert encodedKey encodedValue }

end Url

/-! ## 3. The parameters of a query -/

/-- The name of a parameter, as it stands between two separators. -/
def nameOf (piece : Text) : Text := piece.takeWhile (· != '='.toUInt8)

def valueOf (piece : Text) : Text := (piece.dropWhile (· != '='.toUInt8)).tail

def appendPiece (parameters : Parameters) (piece : Text) : Parameters :=
  if (nameOf piece).isEmpty then parameters
  else parameters.insert (nameOf piece) (valueOf piece)

/-- The pieces of a query; one `?` in front of it is dropped. -/
def pieces (query : Text) : List Text :=
  (if query.head? = some '?'.toUInt8 then query.tail else query).splitOn '&'.toUInt8

section Parameters

variable {query piece more : Text} {position : Nat} {parameters : Parameters}

/-- A piece is its name, and behind a `=` its value. -/
theorem piece_cases (piece : Text) :
    ('='.toUInt8 ∉ piece ∧ nameOf piece = piece ∧ valueOf piece = []) ∨
    ('='.toUInt8 ∉ nameOf piece ∧ piece = nameOf piece ++ '='.toUInt8 :: valueOf piece) := by
  have hname : '='.toUInt8 ∉ nameOf piece := by
    intro hmem
    simpa using List.mem_takeWhile_imp hmem
  have hjoin : nameOf piece ++ piece.dropWhile (· != '='.toUInt8) = piece :=
    List.takeWhile_append_dropWhile
  cases hrest : piece.dropWhile (· != '='.toUInt8) with
  | nil =>
    left
    rw [hrest, List.append_nil] at hjoin
    refine ⟨hjoin ▸ hname, hjoin, ?_⟩
    rw [valueOf, hrest, List.tail_nil]
  | cons c value =>
    right
    have hc : c = '='.toUInt8 := by
      have hstop := @head?_dropWhile _ (· != '='.toUInt8) piece c (by rw [hrest]; rfl)
      simpa using hstop
    refine ⟨hname, ?_⟩
    rw [valueOf, hrest, List.tail_cons, ← hc, ← hrest]
    exact hjoin.symm

/-- The key ends where the name of the piece does. -/
theorem endOfKey_findFrom (hdrop : query.drop position = piece ++ more) :
    Url.endOfKey (findFrom '='.toUInt8 query position) (position + piece.length) =
      position + (nameOf piece).length := by
  rcases piece_cases piece with ⟨hnot, hname, -⟩ | ⟨hnot, hpiece⟩
  · rw [hname, findFrom_append hdrop hnot]
    cases hfound : more.findIdx? (· == '='.toUInt8) with
    | none => rfl
    | some j =>
      -- not at the separator itself, so behind it
      simp only [Option.map_some, Url.endOfKey]
      split
      · rfl
      · omega
  · have hcut : query.drop position =
        nameOf piece ++ '='.toUInt8 :: (valueOf piece ++ more) := by
      rw [hdrop]
      conv_lhs => rw [hpiece]
      rw [List.append_assoc, List.cons_append]
    rw [findFrom_append_cons hcut hnot]
    have hlength : piece.length = (nameOf piece).length + ((valueOf piece).length + 1) := by
      conv_lhs => rw [hpiece]
      rw [List.length_append, List.length_cons]
    simp only [Url.endOfKey]
    split
    · omega
    · rfl

/-- What is put into the map for a piece. -/
theorem insert_eq_appendPiece (hdrop : query.drop position = piece ++ more) :
    (if (substr query position (nameOf piece).length).isEmpty then parameters
     else parameters.insert (substr query position (nameOf piece).length)
      (substr query
        (if position + (nameOf piece).length = position + piece.length
         then position + piece.length else position + (nameOf piece).length + 1)
        (position + piece.length -
          if position + (nameOf piece).length = position + piece.length
          then position + piece.length else position + (nameOf piece).length + 1))) =
      appendPiece parameters piece := by
  rcases piece_cases piece with ⟨-, hname, hvalue⟩ | ⟨-, hpiece⟩
  · rw [hname, substr_of_drop hdrop, if_pos rfl, Nat.sub_self, appendPiece, hname, hvalue]
    simp only [substr, List.take_zero]
  · have hcut : query.drop position =
        nameOf piece ++ '='.toUInt8 :: (valueOf piece ++ more) := by
      rw [hdrop]
      conv_lhs => rw [hpiece]
      rw [List.append_assoc, List.cons_append]
    have hbehind : query.drop (position + (nameOf piece).length + 1) = valueOf piece ++ more := by
      rw [← List.drop_drop, ← List.drop_drop, hcut, List.drop_left, List.drop_one, List.tail_cons]
    have hlength : piece.length = (nameOf piece).length + ((valueOf piece).length + 1) := by
      conv_lhs => rw [hpiece]
      rw [List.length_append, List.length_cons]
    have hcount : position + piece.length - (position + (nameOf piece).length + 1) =
        (valueOf piece).length := by omega
    have hinside : ¬ position + (nameOf piece).length = position + piece.length := by omega
    rw [if_neg hinside, substr_of_drop hcut, hcount, substr_of_drop hbehind, appendPiece]

/-- One turn of the loop, on the piece that begins at the position. -/
theorem appendParametersFrom_piece (hle : position ≤ query.length)
    (hdrop : query.drop position = piece ++ more) (hpiece : '&'.toUInt8 ∉ piece)
    (hmore : ∀ c ∈ more.head?, c = '&'.toUInt8) :
    Url.appendParametersFrom query position parameters =
      if more.isEmpty then appendPiece parameters piece
      else Url.appendParametersFrom query (position + piece.length + 1)
        (appendPiece parameters piece) := by
  have hlength : query.length = position + piece.length + more.length := by
    have hsum := congrArg List.length hdrop
    rw [List.length_drop, List.length_append] at hsum
    omega
  cases more with
  | nil =>
    have hseparator : findFrom '&'.toUInt8 query position = none := by
      apply findFrom_of_notMem
      rw [hdrop, List.append_nil]
      exact hpiece
    have hstop : query.length = position + piece.length := by simpa using hlength
    rw [Url.appendParametersFrom, if_pos hle]
    simp only [hseparator, Option.getD_none, hstop, endOfKey_findFrom hdrop,
      Nat.add_sub_cancel_left, insert_eq_appendPiece hdrop, List.isEmpty_nil, if_true]
    split
    · rfl
    · rename_i hfound
      rw [hseparator] at hfound
      cases hfound
  | cons c next =>
    have hc : c = '&'.toUInt8 := hmore c rfl
    subst hc
    have hseparator := findFrom_append_cons hdrop hpiece
    rw [Url.appendParametersFrom, if_pos hle]
    simp only [hseparator, Option.getD_some, endOfKey_findFrom hdrop,
      Nat.add_sub_cancel_left, insert_eq_appendPiece hdrop, List.isEmpty_cons, Bool.false_eq_true,
      if_false]
    split
    · rename_i hfound
      rw [hseparator] at hfound
      cases hfound
    · rename_i hfound
      rw [hseparator] at hfound
      cases hfound
      rfl

/-- A text up to its first separator. -/
theorem exists_piece (text : Text) : ∃ piece more, text = piece ++ more ∧
    '&'.toUInt8 ∉ piece ∧ ∀ c ∈ more.head?, c = '&'.toUInt8 := by
  refine ⟨text.takeWhile (· != '&'.toUInt8), text.dropWhile (· != '&'.toUInt8),
    List.takeWhile_append_dropWhile.symm, ?_, ?_⟩
  · intro hmem
    simpa using List.mem_takeWhile_imp hmem
  · intro c hc
    simpa using head?_dropWhile _ c hc

/-- The loop puts in one piece after the other. -/
theorem appendParametersFrom_eq (hle : position ≤ query.length) :
    Url.appendParametersFrom query position parameters =
      ((query.drop position).splitOn '&'.toUInt8).foldl appendPiece parameters := by
  -- on what is left of the query
  induction hleft : query.length - position using Nat.strong_induction_on
    generalizing position parameters with
  | _ left ih =>
    obtain ⟨piece, more, hdrop, hpiece, hmore⟩ := exists_piece (query.drop position)
    rw [appendParametersFrom_piece hle hdrop hpiece hmore, hdrop]
    cases more with
    | nil =>
      rw [List.append_nil, List.splitOn_eq_singleton hpiece]
      rfl
    | cons c next =>
      have hc : c = '&'.toUInt8 := hmore c rfl
      subst hc
      have hlength : query.length - position = piece.length + (next.length + 1) := by
        have hsum := congrArg List.length hdrop
        rwa [List.length_drop, List.length_append, List.length_cons] at hsum
      have hnext : query.drop (position + piece.length + 1) = next := by
        rw [← List.drop_drop, ← List.drop_drop, hdrop, List.drop_left, List.drop_one,
          List.tail_cons]
      rw [List.splitOn_append_cons_self_of_not_mem hpiece, List.foldl_cons, List.isEmpty_cons,
        if_neg Bool.false_ne_true, ih _ (by omega) (by omega) rfl, hnext]

/-- `AppendQueryParameters`. -/
theorem appendQueryParameters_eq (url : Url) (query : Text) :
    (url.appendQueryParameters query).encodedQueryParameters =
      (pieces query).foldl appendPiece url.encodedQueryParameters := by
  unfold Url.appendQueryParameters pieces
  cases query with
  | nil => exact appendParametersFrom_eq (Nat.zero_le _)
  | cons c query =>
    dsimp only
    split
    · exact appendParametersFrom_eq (Nat.succ_le_succ (Nat.zero_le _))
    · exact appendParametersFrom_eq (Nat.zero_le _)

/-- A piece has no separator, and is a part of the text. -/
theorem mem_splitOn {text : Text} (hmem : piece ∈ text.splitOn '&'.toUInt8) :
    '&'.toUInt8 ∉ piece ∧ piece <:+: text := by
  induction hlength : text.length using Nat.strong_induction_on generalizing text with
  | _ n ih =>
    obtain ⟨front, more, rfl, hfront, hmore⟩ := exists_piece text
    cases more with
    | nil =>
      rw [List.append_nil, List.splitOn_eq_singleton hfront, List.mem_singleton] at hmem
      rw [hmem, List.append_nil]
      exact ⟨hfront, List.infix_refl front⟩
    | cons c next =>
      have hc : c = '&'.toUInt8 := hmore c rfl
      subst hc
      rw [List.splitOn_append_cons_self_of_not_mem hfront, List.mem_cons] at hmem
      rcases hmem with rfl | hmem
      · exact ⟨hfront, List.infix_append_left⟩
      · rw [List.length_append, List.length_cons] at hlength
        obtain ⟨hnot, hpart⟩ := ih next.length (by omega) hmem rfl
        exact ⟨hnot, List.infix_append_of_infix_right (List.infix_cons hpart)⟩

theorem mem_pieces (hmem : piece ∈ pieces query) : '&'.toUInt8 ∉ piece ∧ piece <:+: query := by
  unfold pieces at hmem
  obtain ⟨hnot, hpart⟩ := mem_splitOn hmem
  refine ⟨hnot, List.IsInfix.trans hpart ?_⟩
  split
  · exact List.IsSuffix.isInfix (List.tail_suffix query)
  · exact List.infix_refl query

theorem nameOf_part (piece : Text) : nameOf piece <:+: piece :=
  List.IsPrefix.isInfix (List.takeWhile_prefix _)

theorem valueOf_part (piece : Text) : valueOf piece <:+: piece :=
  List.IsSuffix.isInfix ((List.tail_suffix _).trans (List.dropWhile_suffix _))

theorem notMem_nameOf (piece : Text) : '='.toUInt8 ∉ nameOf piece := by
  intro hmem
  simpa using List.mem_takeWhile_imp hmem

theorem getElem?_appendPiece (name : Text) :
    (appendPiece parameters piece)[name]? =
      if nameOf piece = name ∧ name ≠ [] then some (valueOf piece) else parameters[name]? := by
  unfold appendPiece
  by_cases hname : nameOf piece = name
  · subst hname
    cases hempty : nameOf piece with
    | nil => simp
    | cons c name => simp
  · rw [if_neg (show ¬(nameOf piece = name ∧ name ≠ []) from fun hboth => hname hboth.1)]
    split
    · rfl
    · rw [ExtTreeMap.getElem?_insert, if_neg]
      rwa [Std.compare_eq_iff_eq]

/-- The parameter that a query gives: of the pieces with its name, the last one counts, and
    a name is not empty. -/
def GivesParameter (query name value : Text) : Prop :=
  name ≠ [] ∧ ∃ before piece after, pieces query = before ++ piece :: after ∧
    nameOf piece = name ∧ valueOf piece = value ∧ ∀ later ∈ after, nameOf later ≠ name

theorem GivesParameter.exists_piece {name value : Text} (h : GivesParameter query name value) :
    ∃ piece ∈ pieces query, nameOf piece = name ∧ valueOf piece = value := by
  obtain ⟨-, before, piece, after, hsplit, hname, hvalue, -⟩ := h
  refine ⟨piece, ?_, hname, hvalue⟩
  rw [hsplit]
  exact List.mem_append_right _ List.mem_cons_self

theorem getElem?_foldl_appendPiece (list : List Text) (name value : Text) :
    (list.foldl appendPiece ∅)[name]? = some value ↔
      name ≠ [] ∧ ∃ before piece after, list = before ++ piece :: after ∧
        nameOf piece = name ∧ valueOf piece = value ∧ ∀ later ∈ after, nameOf later ≠ name := by
  induction list using List.reverseRecOn with
  | nil => simp
  | append_singleton list last ih =>
    rw [List.foldl_append, List.foldl_cons, List.foldl_nil, getElem?_appendPiece]
    by_cases hlast : nameOf last = name ∧ name ≠ []
    · rw [if_pos hlast, Option.some.injEq]
      constructor
      · intro hvalue
        exact ⟨hlast.2, list, last, [], rfl, hlast.1, hvalue, by simp⟩
      · rintro ⟨-, before, piece, after, hsplit, -, hvalue, hlater⟩
        rcases List.eq_nil_or_concat after with rfl | ⟨after, other, rfl⟩
        · obtain ⟨-, heq⟩ := List.append_inj' hsplit rfl
          rw [List.cons.injEq] at heq
          rw [heq.1]
          exact hvalue
        · -- the last piece has the name, so nothing may come behind the one that counts
          rw [List.concat_eq_append, ← List.cons_append, ← List.append_assoc] at hsplit
          obtain ⟨-, heq⟩ := List.append_inj' hsplit rfl
          rw [List.cons.injEq] at heq
          exact absurd (heq.1 ▸ hlast.1) (hlater other (by simp))
    · rw [if_neg hlast, ih]
      constructor
      · rintro ⟨hname, before, piece, after, rfl, hpiece, hvalue, hlater⟩
        refine ⟨hname, before, piece, after ++ [last], by simp, hpiece, hvalue, ?_⟩
        intro later hmem
        rcases List.mem_append.mp hmem with hmem | hmem
        · exact hlater later hmem
        · rw [List.mem_singleton] at hmem
          rw [hmem]
          exact fun heq => hlast ⟨heq, hname⟩
      · rintro ⟨hname, before, piece, after, hsplit, hpiece, hvalue, hlater⟩
        rcases List.eq_nil_or_concat after with rfl | ⟨after, other, rfl⟩
        · obtain ⟨-, heq⟩ := List.append_inj' hsplit rfl
          rw [List.cons.injEq] at heq
          exact absurd ⟨heq.1 ▸ hpiece, hname⟩ hlast
        · rw [List.concat_eq_append, ← List.cons_append, ← List.append_assoc] at hsplit
          obtain ⟨rfl, -⟩ := List.append_inj' hsplit rfl
          refine ⟨hname, before, piece, after, rfl, hpiece, hvalue, ?_⟩
          intro later hmem
          exact hlater later (by simp [hmem])

/-- The map holds the parameters that the query gives. -/
theorem getElem?_pieces (query name value : Text) :
    ((pieces query).foldl appendPiece ∅)[name]? = some value ↔
      GivesParameter query name value :=
  getElem?_foldl_appendPiece (pieces query) name value

end Parameters

/-! ## 4. The parts of a text

Behind the scheme a text is a host, a port and what comes behind the two.  Path and query
are cut out of the last part; the constructor accepts the text when the port can be read. -/

/-- The path that `rest` begins with, without one slash. -/
def pathText (rest : Text) : Text := (rest.takeWhile (!Url.isPathEnd ·)).tail

/-- The query behind the path, up to the fragment. -/
def queryText (rest : Text) : Text :=
  if (rest.dropWhile (!Url.isPathEnd ·)).head? = some '?'.toUInt8 then
    (rest.dropWhile (!Url.isPathEnd ·)).tail.takeWhile (· != '#'.toUInt8)
  else []

/-- The port that a text stands for: nothing, or a colon and digits. -/
def ReadsPort (portText : Text) (port : UInt16) : Prop :=
  (portText = [] ∧ port = 0) ∨
  ∃ digits value, portText = ':'.toUInt8 :: digits ∧ (∀ c ∈ digits, isDigit c = true) ∧
    stoi digits = .ok value ∧ value ≤ 65535 ∧ port = value.toUInt16

/-- The parts of a text that the constructor accepts. -/
structure Cut (text scheme host portText rest : Text) (port : UInt16) : Prop where
  scheme : Url.readScheme text = (scheme, host ++ (portText ++ rest))
  host : ∀ c ∈ host, Url.isHostEnd c = false
  port : ReadsPort portText port
  rest : ∀ c ∈ rest.head?, c = '/'.toUInt8 ∨ c = '?'.toUInt8

section Reading

variable {text scheme host portText rest : Text} {port : UInt16}

theorem foldl_pieces_nil (parameters : Parameters) :
    (pieces []).foldl appendPiece parameters = parameters := rfl

theorem readPathAndQuery_eq (url : Url) (hpath : url.encodedPath = [])
    (hrest : ∀ c ∈ rest.head?, c = '/'.toUInt8 ∨ c = '?'.toUInt8) :
    url.readPathAndQuery rest =
      { url with
        encodedPath := pathText rest
        encodedQueryParameters :=
          (pieces (queryText rest)).foldl appendPiece url.encodedQueryParameters } := by
  cases rest with
  | nil =>
    cases url
    cases hpath
    rfl
  | cons c rest =>
    rcases hrest c rfl with rfl | rfl
    · have hslash : Url.isPathEnd '/'.toUInt8 = false := rfl
      simp only [Url.readPathAndQuery, pathText, queryText, List.head?_cons, if_true,
        List.tail_cons, List.takeWhile_cons, List.dropWhile_cons, hslash, Bool.not_false]
      split
      · rw [← appendQueryParameters_eq]
        rfl
      · rfl
    · have hquestion : Url.isPathEnd '?'.toUInt8 = true := rfl
      simp only [Url.readPathAndQuery, pathText, queryText, List.head?_cons, if_true,
        List.tail_cons, List.takeWhile_cons, List.dropWhile_cons, hquestion, Bool.not_true,
        Bool.false_eq_true, if_false, List.tail_nil]
      rw [← appendQueryParameters_eq]
      rfl

/-- A text that is cut into parts is accepted, and the parts are what is read. -/
theorem new_of_cut (h : Cut text scheme host portText rest port) :
    Url.new text = .ok
      { scheme := scheme
        host := host
        port := port
        encodedPath := pathText rest
        encodedQueryParameters := (pieces (queryText rest)).foldl appendPiece ∅ } := by
  have hhost : ∀ c ∈ host, (!Url.isHostEnd c) = true := by
    intro c hc
    rw [h.host c hc, Bool.not_false]
  have hend : ∀ c ∈ (portText ++ rest).head?, (!Url.isHostEnd c) = false := by
    intro c hc
    rcases h.port with ⟨rfl, -⟩ | ⟨digits, value, rfl, -⟩
    · rcases h.rest c hc with rfl | rfl <;> rfl
    · rw [List.cons_append, List.head?_cons, Option.mem_some] at hc
      rw [← hc]
      rfl
  unfold Url.new
  simp only [h.scheme, takeWhile_append_stop hhost hend, dropWhile_append_stop hhost hend]
  rcases h.port with ⟨rfl, rfl⟩ | ⟨digits, value, rfl, hdigits, hvalue, hle, rfl⟩
  · rw [List.nil_append]
    cases rest with
    | nil => rfl
    | cons c rest =>
      rw [← readPathAndQuery_eq ⟨scheme, host, 0, [], ∅⟩ rfl h.rest]
      rcases h.rest c rfl with rfl | rfl <;> rfl
  · have hstop : ∀ c ∈ rest.head?, isDigit c = false := by
      intro c hc
      rcases h.rest c hc with rfl | rfl <;> rfl
    have hport : Url.readPort (digits ++ rest) = .ok (value.toUInt16, rest) := by
      simp only [Url.readPort, takeWhile_append_stop hdigits hstop,
        dropWhile_append_stop hdigits hstop, hvalue]
      exact if_neg (Nat.not_lt.mpr hle)
    simp only [List.cons_append, List.isEmpty_cons, List.head?_cons, List.tail_cons, hport]
    cases rest with
    | nil => rfl
    | cons c rest =>
      rw [← readPathAndQuery_eq ⟨scheme, host, value.toUInt16, [], ∅⟩ rfl h.rest]
      rcases h.rest c rfl with rfl | rfl <;> rfl

/-- A port that is read. -/
theorem readPort_eq_ok {behind : Text} (hread : Url.readPort text = .ok (port, behind)) :
    ∃ digits, text = digits ++ behind ∧ ReadsPort (':'.toUInt8 :: digits) port := by
  unfold Url.readPort at hread
  cases hvalue : stoi (text.takeWhile isDigit) with
  | error e =>
    rw [hvalue] at hread
    cases hread
  | ok value =>
    rw [hvalue] at hread
    by_cases hlarge : 65535 < value
    · have herror : (.error (.outOfRange
          "The port number is out of range. The max supported number is 65535.") :
          Except Exception (UInt16 × Text)) = .ok (port, behind) := by
        rw [← hread]
        exact (if_pos hlarge).symm
      cases herror
    · have hok : (.ok (value.toUInt16, text.dropWhile isDigit) :
          Except Exception (UInt16 × Text)) = .ok (port, behind) := by
        rw [← hread]
        exact (if_neg hlarge).symm
      cases hok
      refine ⟨text.takeWhile isDigit, List.takeWhile_append_dropWhile.symm, Or.inr ?_⟩
      exact ⟨_, value, rfl, fun c hc => List.mem_takeWhile_imp hc, hvalue, Nat.le_of_not_lt hlarge,
        rfl⟩

/-- A text that is accepted is cut into parts. -/
theorem exists_cut {url : Url} (hnew : Url.new text = .ok url) :
    ∃ scheme host portText rest port, Cut text scheme host portText rest port := by
  have hjoin : (Url.readScheme text).2.takeWhile (!Url.isHostEnd ·) ++
      (Url.readScheme text).2.dropWhile (!Url.isHostEnd ·) = (Url.readScheme text).2 :=
    List.takeWhile_append_dropWhile
  have hhost : ∀ c ∈ (Url.readScheme text).2.takeWhile (!Url.isHostEnd ·),
      Url.isHostEnd c = false := by
    intro c hc
    simpa using List.mem_takeWhile_imp hc
  have hend := @head?_dropWhile _ (!Url.isHostEnd ·) (Url.readScheme text).2
  unfold Url.new at hnew
  simp only at hnew
  cases htail : (Url.readScheme text).2.dropWhile (!Url.isHostEnd ·) with
  | nil =>
    rw [htail] at hjoin
    refine ⟨(Url.readScheme text).1, _, [], [], 0, ?_, hhost, Or.inl ⟨rfl, rfl⟩, by simp⟩
    rw [List.nil_append, hjoin]
  | cons c tail =>
    rw [htail] at hjoin hend hnew
    have hc := hend c rfl
    by_cases hcolon : c = ':'.toUInt8
    · subst hcolon
      cases hport : Url.readPort tail with
      | error e =>
        simp only [List.isEmpty_cons, List.head?_cons, List.tail_cons, hport] at hnew
        cases hnew
      | ok read =>
        obtain ⟨port, behind⟩ := read
        obtain ⟨digits, rfl, hreads⟩ := readPort_eq_ok hport
        refine ⟨(Url.readScheme text).1, _, ':'.toUInt8 :: digits, behind, port, ?_, hhost,
          hreads, ?_⟩
        · rw [List.cons_append, hjoin]
        · intro c hbehind
          by_contra hneither
          rw [not_or] at hneither
          cases behind with
          | nil => cases hbehind
          | cons other behind =>
            cases hbehind
            have hinvalid : List.head? (c :: behind) ≠ some '/'.toUInt8 ∧
                List.head? (c :: behind) ≠ some '?'.toUInt8 :=
              ⟨fun heq => hneither.1 (Option.some.inj heq),
                fun heq => hneither.2 (Option.some.inj heq)⟩
            have herror : (.error (.invalidArgument
                "The port number contains invalid characters.") : Except Exception Url) =
                  .ok url := by
              rw [← hnew]
              simp only [List.isEmpty_cons, List.head?_cons, List.tail_cons, hport]
              exact (if_pos hinvalid).symm
            cases herror
    · refine ⟨(Url.readScheme text).1, _, [], c :: tail, 0, ?_, hhost, Or.inl ⟨rfl, rfl⟩, ?_⟩
      · rw [List.nil_append, hjoin]
      · intro other hother
        cases hother
        rw [or_iff_not_imp_left]
        simpa [Url.isHostEnd, hcolon] using hc

/-- What the constructor does: it accepts the texts that can be cut, and reads their parts. -/
theorem new_eq_ok {url : Url} (hnew : Url.new text = .ok url) :
    ∃ portText rest, Cut text url.scheme url.host portText rest url.port ∧
      url.encodedPath = pathText rest ∧
      url.encodedQueryParameters = (pieces (queryText rest)).foldl appendPiece ∅ := by
  obtain ⟨scheme, host, portText, rest, port, hcut⟩ := exists_cut hnew
  rw [new_of_cut hcut] at hnew
  cases hnew
  exact ⟨portText, rest, hcut, rfl, rfl⟩

end Reading

end LivekitClient.Urls
