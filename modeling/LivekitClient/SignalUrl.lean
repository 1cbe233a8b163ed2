/-
  LivekitClient/SignalUrl.lean
  ============================
  **The signal URL** (`BuildSignalUrl` in `src/core/detail/signal_url.cpp`).

  The connection's parameters are put into the query of the base URL, percent-encoded, and
  the URL is printed; the WebSocket client reads it again.  Encoded values have none of the
  characters that separate parameters, so what a token or a participant's sid contains never
  becomes a parameter of its own.  What is left is the printer's way with a base that has no
  scheme.
-/
import Mathlib.Data.List.Nodup
import LivekitClient.PercentEncoding
import LivekitClient.UrlPrinting

namespace LivekitClient.SignalUrl

open Std
open LivekitClient.TextSearch LivekitClient.Urls

/-! ## 1. Building the URL -/

structure SignalSdkOptions where
  sdk : Text := []
  sdkVersion : Text := []

structure SignalOptions where
  autoSubscribe : Bool := true
  adaptiveStream : Bool := false
  reconnect : Bool := false
  reconnectReason : Int := 0
  participantSid : Text := []
  sdkOptions : SignalSdkOptions := {}

def kProtocolVersion : Text := ascii "15"
def kDefaultSdk : Text := ascii "cpp"
def kDefaultSdkVersion : Text := ascii "0.0.1"

/-- `std::to_string` of an `int`. -/
def intToString (n : Int) : Text :=
  if n < 0 then '-'.toUInt8 :: decimal n.natAbs else decimal n.natAbs

def setParameter (url : Url) (key value : Text) : Url :=
  url.appendQueryParameter key (encode value)

/-- The calls of `SetParameter` in `BuildSignalUrl`. -/
def setParameters (request : Url) (token : Text) (options : SignalOptions) : Url :=
  let request := setParameter request (ascii "access_token") token
  let request := setParameter request (ascii "auto_subscribe")
    (if options.autoSubscribe then ascii "1" else ascii "0")
  let request := setParameter request (ascii "sdk")
    (if options.sdkOptions.sdk.isEmpty then kDefaultSdk else options.sdkOptions.sdk)
  let request := setParameter request (ascii "version")
    (if options.sdkOptions.sdkVersion.isEmpty then kDefaultSdkVersion
     else options.sdkOptions.sdkVersion)
  let request := setParameter request (ascii "protocol") kProtocolVersion
  let request :=
    if options.adaptiveStream then setParameter request (ascii "adaptive_stream") (ascii "1")
    else request
  if options.reconnect then
    let request := setParameter request (ascii "reconnect") (ascii "1")
    let request :=
      if options.participantSid.isEmpty then request
      else setParameter request (ascii "sid") options.participantSid
    if options.reconnectReason ≠ 0 then
      setParameter request (ascii "reconnect_reason") (intToString options.reconnectReason)
    else request
  else request

def buildSignalUrl (url token : Text) (options : SignalOptions) : Except Exception Text := do
  let request ← Url.new url
  return (setParameters request token options).getAbsoluteUrl

/-! ## 2. The parameters that the options call for -/

/-- The parameters with their raw values. -/
def requested (token : Text) (options : SignalOptions) : List (Text × Text) :=
  [(ascii "access_token", token),
   (ascii "auto_subscribe", if options.autoSubscribe then ascii "1" else ascii "0"),
   (ascii "sdk",
    if options.sdkOptions.sdk.isEmpty then kDefaultSdk else options.sdkOptions.sdk),
   (ascii "version",
    if options.sdkOptions.sdkVersion.isEmpty then kDefaultSdkVersion
    else options.sdkOptions.sdkVersion),
   (ascii "protocol", kProtocolVersion)] ++
  (if options.adaptiveStream then [(ascii "adaptive_stream", ascii "1")] else []) ++
  (if options.reconnect then
    [(ascii "reconnect", ascii "1")] ++
    (if options.participantSid.isEmpty then [] else [(ascii "sid", options.participantSid)]) ++
    (if options.reconnectReason ≠ 0
     then [(ascii "reconnect_reason", intToString options.reconnectReason)] else [])
   else [])

/-- The read URL has the base's scheme, host and port; of its parameters, the requested ones
    decode to their raw values, and the other ones are those of the base. -/
structure CarriesParameters (token : Text) (options : SignalOptions) (base read : Url) : Prop where
  scheme : read.scheme = base.scheme
  host : read.host = base.host
  port : read.port = base.port
  requested : ∀ key raw, (key, raw) ∈ requested token options →
    ∃ value, read.encodedQueryParameters[key]? = some value ∧ decode value = .ok raw
  kept : ∀ key, (∀ raw, (key, raw) ∉ SignalUrl.requested token options) →
    read.encodedQueryParameters[key]? = base.encodedQueryParameters[key]?

section Requested

variable {token : Text} {options : SignalOptions}

/-- One parameter after the other is set. -/
def override (parameters : Parameters) (entries : List (Text × Text)) : Parameters :=
  entries.foldl (fun parameters entry => parameters.insert entry.1 (encode entry.2)) parameters

/-- The base with the requested parameters. -/
def requestUrl (token : Text) (options : SignalOptions) (base : Url) : Url :=
  { base with encodedQueryParameters :=
      override base.encodedQueryParameters (requested token options) }

theorem foldl_setParameter (entries : List (Text × Text)) (url : Url) :
    entries.foldl (fun url entry => setParameter url entry.1 entry.2) url =
      { url with encodedQueryParameters := override url.encodedQueryParameters entries } := by
  induction entries generalizing url with
  | nil => rfl
  | cons entry entries ih =>
    rw [List.foldl_cons, ih]
    rfl

/-- The code sets the requested parameters, one after the other. -/
theorem setParameters_eq (url : Url) (token : Text) (options : SignalOptions) :
    setParameters url token options = requestUrl token options url := by
  rw [requestUrl, ← foldl_setParameter, requested, List.foldl_append, List.foldl_append, setParameters]
  cases options.adaptiveStream <;> cases options.reconnect
  · rfl
  · simp only [if_true, List.foldl_append]
    cases options.participantSid.isEmpty <;> split <;> rfl
  · rfl
  · simp only [if_true, List.foldl_append]
    cases options.participantSid.isEmpty <;> split <;> rfl

/-- The names of the parameters that may be requested. -/
def parameterKeys : List Text :=
  [ascii "access_token", ascii "auto_subscribe", ascii "sdk", ascii "version", ascii "protocol",
   ascii "adaptive_stream", ascii "reconnect", ascii "sid", ascii "reconnect_reason"]

theorem keys_of_optional (wanted : Prop) [Decidable wanted] (entry : Text × Text) :
    ((if wanted then [entry] else []).map Prod.fst).Sublist [entry.1] := by
  split
  · exact List.Sublist.refl _
  · exact List.nil_sublist _

theorem requested_keys (token : Text) (options : SignalOptions) :
    ((requested token options).map Prod.fst).Sublist parameterKeys := by
  have hgroups : parameterKeys =
      [ascii "access_token", ascii "auto_subscribe", ascii "sdk", ascii "version",
        ascii "protocol"] ++ [ascii "adaptive_stream"] ++
      ([ascii "reconnect"] ++ [ascii "sid"] ++ [ascii "reconnect_reason"]) := rfl
  have hadaptive := keys_of_optional (options.adaptiveStream = true)
    (ascii "adaptive_stream", ascii "1")
  have hreason := keys_of_optional (options.reconnectReason ≠ 0)
    (ascii "reconnect_reason", intToString options.reconnectReason)
  rw [requested, List.map_append, List.map_append, hgroups]
  apply List.Sublist.append
  · exact List.Sublist.append (List.Sublist.refl _) hadaptive
  · split
    · rw [List.map_append, List.map_append]
      apply List.Sublist.append _ hreason
      apply List.Sublist.append (List.Sublist.refl _)
      split
      · exact List.nil_sublist _
      · exact List.Sublist.refl _
    · exact List.nil_sublist _

theorem requested_nodup (token : Text) (options : SignalOptions) :
    ((requested token options).map Prod.fst).Nodup :=
  (requested_keys token options).nodup (by decide)

theorem mem_parameterKeys {key raw : Text} (hmem : (key, raw) ∈ requested token options) :
    key ∈ parameterKeys :=
  (requested_keys token options).subset (List.mem_map_of_mem hmem)

theorem getElem?_override {parameters : Parameters} {entries : List (Text × Text)}
    (hdistinct : (entries.map Prod.fst).Nodup) (key : Text) :
    (∃ raw, (key, raw) ∈ entries ∧ (override parameters entries)[key]? = some (encode raw)) ∨
    ((∀ raw, (key, raw) ∉ entries) ∧ (override parameters entries)[key]? = parameters[key]?) := by
  induction entries generalizing parameters with
  | nil => exact Or.inr ⟨by simp, rfl⟩
  | cons entry entries ih =>
    rw [List.map_cons, List.nodup_cons] at hdistinct
    rcases @ih (parameters.insert entry.1 (encode entry.2)) hdistinct.2 with
      ⟨raw, hmem, hvalue⟩ | ⟨hnot, hvalue⟩
    · exact Or.inl ⟨raw, List.mem_cons_of_mem _ hmem, hvalue⟩
    · rw [override, List.foldl_cons, ← override, hvalue, ExtTreeMap.getElem?_insert]
      by_cases hkey : entry.1 = key
      · refine Or.inl ⟨entry.2, ?_, if_pos (by rw [hkey, Std.compare_self])⟩
        rw [← hkey]
        exact List.mem_cons_self
      · refine Or.inr ⟨?_, if_neg (by rwa [Std.compare_eq_iff_eq])⟩
        intro raw hmem
        rcases List.mem_cons.mp hmem with rfl | hmem
        · exact hkey rfl
        · exact hnot raw hmem

end Requested

/-! ## 3. What the client reads -/

section Encoded

variable {value : Text}

/-- An encoded value has no character that means something in a URL. -/
theorem notMem_encode {c : UInt8} (hshould : shouldEncode c = true) (hpercent : c ≠ '%'.toUInt8) :
    c ∉ encode value := by
  intro hmem
  rcases mem_encode hmem with heq | hnot
  · exact hpercent heq
  · rw [hshould] at hnot
    cases hnot

theorem decode_encode (value : Text) : decode (encode value) = .ok value := by
  have hround := decode_encode_append value [] [] List.not_mem_nil List.not_mem_nil
  rw [List.append_nil] at hround
  rw [hround, decode]
  exact congrArg Except.ok (List.append_nil value)

end Encoded

section Request

variable {text token : Text} {options : SignalOptions} {base : Url}

/-- A parameter of the request is a requested one, encoded, or one of the base. -/
theorem getElem?_requestUrl (token : Text) (options : SignalOptions) (base : Url) (key : Text) :
    (∃ raw, (key, raw) ∈ requested token options ∧
      (requestUrl token options base).encodedQueryParameters[key]? = some (encode raw)) ∨
    ((∀ raw, (key, raw) ∉ requested token options) ∧
      (requestUrl token options base).encodedQueryParameters[key]? =
        base.encodedQueryParameters[key]?) := by
  have hparameters : (requestUrl token options base).encodedQueryParameters =
      override base.encodedQueryParameters (requested token options) := by
    simp only [requestUrl]
  rw [hparameters]
  exact @getElem?_override base.encodedQueryParameters (requested token options)
    (requested_nodup token options) key

/-- The URL with the requested parameters can be printed and read. -/
theorem wellFormed_requestUrl (token : Text) (options : SignalOptions) (h : WellFormed base) :
    WellFormed (requestUrl token options base) := by
  refine ⟨h.lower, h.scheme, h.host, h.path, ?_⟩
  intro name value hvalue
  rcases getElem?_requestUrl token options base name with
    ⟨raw, hmem, hset⟩ | ⟨-, hkept⟩
  · rw [hset, Option.some.injEq] at hvalue
    have hkeys : ∀ key ∈ parameterKeys, key ≠ [] ∧ '='.toUInt8 ∉ key ∧
        '&'.toUInt8 ∉ key ∧ '#'.toUInt8 ∉ key := by decide
    obtain ⟨hname, hequals, hseparator, hfragment⟩ := hkeys name (mem_parameterKeys hmem)
    refine ⟨hname, hequals, ?_⟩
    intro c hc
    rcases List.mem_append.mp hc with hc | hc
    · exact ⟨fun heq => hseparator (heq ▸ hc), fun heq => hfragment (heq ▸ hc)⟩
    · rw [← hvalue] at hc
      constructor
      · rintro rfl
        exact notMem_encode (by decide) (by decide) hc
      · rintro rfl
        exact notMem_encode (by decide) (by decide) hc
  · rw [hkept] at hvalue
    exact h.parameters name value hvalue

/-- No requested name begins with a `?`, so none does if none of the base's does. -/
theorem joined_requestUrl_head (h : WellFormed base)
    (hkeys : ∀ name value : Text, base.encodedQueryParameters[name]? = some value →
      name.head? ≠ some '?'.toUInt8) :
    (joined (requestUrl token options base).encodedQueryParameters).head? ≠
      some '?'.toUInt8 := by
  rw [ne_eq, joined_head_iff (wellFormed_requestUrl token options h).parameters]
  rintro ⟨name, value, hvalue, hhead, -⟩
  rcases getElem?_requestUrl token options base name with
    ⟨raw, hmem, -⟩ | ⟨-, hkept⟩
  · have hall : ∀ key ∈ parameterKeys, key.head? ≠ some '?'.toUInt8 := by decide
    exact hall name (mem_parameterKeys hmem) hhead
  · rw [hkept] at hvalue
    exact hkeys name value hvalue hhead

/-- A URL with the overridden parameters carries the requested ones, and the rest of the
    base's. -/
theorem CarriesParameters.of_requestUrl {read : Url} (hscheme : read.scheme = base.scheme)
    (hhost : read.host = base.host) (hport : read.port = base.port)
    (hparameters : read.encodedQueryParameters =
      (requestUrl token options base).encodedQueryParameters) :
    CarriesParameters token options base read := by
  refine ⟨hscheme, hhost, hport, ?_, ?_⟩
  · intro key raw hmem
    refine ⟨encode raw, ?_, decode_encode raw⟩
    rw [hparameters]
    rcases getElem?_requestUrl token options base key with
      ⟨raw', hmem', hset⟩ | ⟨hnot, -⟩
    · have hsame := List.inj_on_of_nodup_map (requested_nodup token options) hmem hmem' rfl
      obtain rfl : raw = raw' := congrArg Prod.snd hsame
      exact hset
    · exact absurd hmem (hnot raw)
  · intro key hnot
    rw [hparameters]
    rcases getElem?_requestUrl token options base key with
      ⟨raw, hmem, -⟩ | ⟨-, hkept⟩
    · exact absurd hmem (hnot raw)
    · exact hkept

/-- Encoded values and requested names have no colon, so `://` is in none of them. -/
theorem occurs_requestUrl_iff :
    (∃ name value : Text,
      (requestUrl token options base).encodedQueryParameters[name]? = some value ∧
        (ascii "://" <:+: name ∨ ascii "://" <:+: value)) ↔
    ∃ name value : Text, base.encodedQueryParameters[name]? = some value ∧
      (∀ raw, (name, raw) ∉ requested token options) ∧
        (ascii "://" <:+: name ∨ ascii "://" <:+: value) := by
  constructor
  · rintro ⟨name, value, hvalue, hoccurs⟩
    rcases getElem?_requestUrl token options base name with
      ⟨raw, hmem, hset⟩ | ⟨hnot, hkept⟩
    · rw [hset, Option.some.injEq] at hvalue
      have hall : ∀ key ∈ parameterKeys, ':'.toUInt8 ∉ key := by decide
      have hcolon : ':'.toUInt8 ∈ ascii "://" := by decide
      rcases hoccurs with hoccurs | hoccurs
      · exact absurd hoccurs (not_infix_of_notMem hcolon (hall name (mem_parameterKeys hmem)))
      · rw [← hvalue] at hoccurs
        exact absurd hoccurs (not_infix_of_notMem hcolon
          (notMem_encode (by decide) (by decide)))
    · rw [hkept] at hvalue
      exact ⟨name, value, hvalue, hnot, hoccurs⟩
  · rintro ⟨name, value, hvalue, hnot, hoccurs⟩
    refine ⟨name, value, ?_, hoccurs⟩
    rcases getElem?_requestUrl token options base name with
      ⟨raw, hmem, -⟩ | ⟨-, hkept⟩
    · exact absurd hmem (hnot raw)
    · rw [hkept]
      exact hvalue

/-- The bases that are misread: they begin with `://`, so have no scheme, and the path or a
    parameter that is not overridden has another one. -/
def Misread (token : Text) (options : SignalOptions) (text : Text) : Prop :=
  ascii "://" <+: text ∧
  (ascii "://" <:+: pathText (behindAuthority text) ∨
    ∃ name value, GivesParameter (queryText (behindAuthority text)) name value ∧
      (∀ raw, (name, raw) ∉ requested token options) ∧
      (ascii "://" <:+: name ∨ ascii "://" <:+: value))

theorem not_misread_iff (hnew : Url.new text = .ok base) :
    ¬ Misread token options text ↔
      (base.scheme = [] → ¬ ascii "://" <:+: (requestUrl token options base).host ++
        (portText (requestUrl token options base) ++
          printedRest (requestUrl token options base))) := by
  have hwell := wellFormed_requestUrl token options (wellFormed_of_new hnew)
  obtain ⟨_, rest, hcut, hpath, -⟩ := new_eq_ok hnew
  have hrest := behindAuthority_of_cut hcut
  subst hrest
  rw [occurs_behind_iff hwell, occurs_requestUrl_iff, Misread, not_and]
  have hsamePath : (requestUrl token options base).encodedPath =
      pathText (behindAuthority text) := hpath
  rw [hsamePath]
  simp only [getElem?_parameters_of_new hnew]
  rw [scheme_eq_nil_imp_iff hcut]
  rintro (hoccurs | ⟨name, value, hgives, -, hoccurs⟩)
  · exact part_of_path_or_parameter (Or.inl hoccurs)
  · exact part_of_path_or_parameter (Or.inr ⟨name, value, hgives, hoccurs⟩)

end Request

/-- **The signal URL carries its parameters.**  For a base whose parameter names do not begin
    with `?`, the built URL reads as the base with exactly the requested parameters set,
    unless the base is misread. -/
theorem signalUrl_carries_iff (text token : Text) (options : SignalOptions) (base : Url)
    (hnew : Url.new text = .ok base)
    (hkeys : ∀ name value : Text, base.encodedQueryParameters[name]? = some value →
      name.head? ≠ some '?'.toUInt8) :
    (∃ printed read, buildSignalUrl text token options = .ok printed ∧
      Url.new printed = .ok read ∧ CarriesParameters token options base read) ↔
      ¬ Misread token options text := by
  have hbase := wellFormed_of_new hnew
  have hwell := wellFormed_requestUrl token options hbase
  have hbuild : buildSignalUrl text token options =
      .ok (requestUrl token options base).getAbsoluteUrl := by
    rw [buildSignalUrl, hnew, ← setParameters_eq]
    rfl
  rw [not_misread_iff hnew]
  constructor
  · rintro ⟨printed, read, hprinted, hread, hcarries⟩ hempty hoccurs
    rw [hbuild, Except.ok.injEq] at hprinted
    subst hprinted
    exact scheme_of_reread hwell hempty hoccurs hread (hcarries.scheme.trans hempty)
  · intro hscheme
    have hread := new_getAbsoluteUrl hwell hscheme
    refine ⟨_, _, hbuild, hread, ?_⟩
    refine CarriesParameters.of_requestUrl ?_ ?_ ?_ ?_
    · rfl
    · rfl
    · rfl
    · exact foldl_pieces_joined hwell.parameters (joined_requestUrl_head hbase hkeys)

/-! ### A token that looks like parameters, and a base that is misread -/

def existingBase : Url :=
  ⟨ascii "wss", ascii "example.com", 0, ascii "rtc",
    (pieces (ascii "existing=kept")).foldl appendPiece ∅⟩

theorem existingBase_accepted :
    Url.new (ascii "wss://example.com/rtc?existing=kept") = .ok existingBase := by
  apply @new_of_cut _ _ _ [] (ascii "/rtc?existing=kept")
  refine ⟨by decide, host_of_all (by decide), Or.inl ⟨rfl, rfl⟩, ?_⟩
  rintro c ⟨⟩
  exact Or.inl rfl

/-- The token stays one parameter, and there is no other sid than the one that is set. -/
theorem signalUrl_carries_token :
    ∃ printed read,
      buildSignalUrl (ascii "wss://example.com/rtc?existing=kept") (ascii "t&sid=other#")
        { reconnect := true, participantSid := ascii "PA_test+sid" } = .ok printed ∧
      Url.new printed = .ok read ∧
      CarriesParameters (ascii "t&sid=other#")
        { reconnect := true, participantSid := ascii "PA_test+sid" } existingBase read := by
  rw [signalUrl_carries_iff _ _ _ _ existingBase_accepted]
  · rintro ⟨hstarts, -⟩
    exact absurd hstarts (by decide)
  · intro name value hvalue
    rw [getElem?_parameters_of_new existingBase_accepted] at hvalue
    obtain ⟨piece, hmem, rfl, -⟩ := hvalue.exists_piece
    have hpieces : pieces (queryText (behindAuthority
        (ascii "wss://example.com/rtc?existing=kept"))) = [ascii "existing=kept"] := by decide
    rw [hpieces, List.mem_singleton] at hmem
    subst hmem
    decide

/-- What is printed for a base without a scheme begins with its host, and the `://` in the
    path ends the scheme. -/
theorem path_is_read_as_scheme :
    ∃ base, Url.new (ascii "://host/a://b") = .ok base ∧ base.encodedQueryParameters = ∅ ∧
      ¬ ∃ printed read, buildSignalUrl (ascii "://host/a://b") (ascii "token") {} = .ok printed ∧
        Url.new printed = .ok read ∧ CarriesParameters (ascii "token") {} base read := by
  have hnew : Url.new (ascii "://host/a://b") =
      .ok ⟨[], ascii "host", 0, ascii "a://b", ∅⟩ := rfl
  refine ⟨_, hnew, rfl, ?_⟩
  rintro ⟨printed, read, hprinted, hread, hcarries⟩
  have hwell := wellFormed_requestUrl (ascii "token") {} (wellFormed_of_new hnew)
  rw [buildSignalUrl, hnew] at hprinted
  have htext := Except.ok.inj hprinted
  rw [← htext, setParameters_eq] at hread
  refine scheme_of_reread hwell rfl ?_ hread hcarries.scheme
  rw [occurs_behind_iff hwell]
  left
  have hpath : ascii "://" <:+: ascii "a://b" := by decide
  exact hpath

end LivekitClient.SignalUrl
