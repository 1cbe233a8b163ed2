/-
  LivekitClient/WebsocketHandshake.lean
  =====================================
  **What the signal connection asks the server for** (`WebsocketUri::parse_and_validate` in
  `src/core/detail/websocket_uri.cpp`, `WebsocketClient::connect` in `websocket_client.cpp`
  and the constructor of `SignalClient` in `signal_client.cpp`).

  The signal URL is printed, read again, checked, and handed to the library in parts: where
  to connect, whether with TLS, and the path and query to ask for.  The text is printed and
  read twice on this way, and the second printing has no scheme, host or port.
-/
import LivekitClient.SignalUrl

namespace LivekitClient.WebsocketHandshake

open Std
open LivekitClient.TextSearch LivekitClient.Urls LivekitClient.SignalUrl

/-! ## 1. The URI of a connection -/

structure WebsocketUri where
  url : Url
  secure : Bool

/-- The constructor `WebsocketUri(Url url)`. -/
def WebsocketUri.new (url : Url) : WebsocketUri :=
  { url := url, secure := url.scheme == ascii "wss" }

/-- The scheme under which a URL is connected to. -/
def websocketScheme (scheme : Text) : Except Exception Text :=
  if scheme = ascii "http" then .ok (ascii "ws")
  else if scheme = ascii "https" then .ok (ascii "wss")
  else if scheme ≠ ascii "ws" ∧ scheme ≠ ascii "wss" then
    .error (.invalidArgument "WebSocket URI scheme must be ws, wss, http, or https")
  else .ok scheme

def WebsocketUri.parseAndValidate (uri : Text) : Except Exception WebsocketUri := do
  if uri.isEmpty then
    throw (.invalidArgument "WebSocket URI must not be empty")
  let url ← Url.new uri
  let scheme ← websocketScheme url.scheme
  if url.host.isEmpty then
    throw (.invalidArgument "WebSocket URI must include a host")
  let port := if url.port = 0 then (if scheme = ascii "wss" then 443 else 80) else url.port
  return .new { url with scheme := scheme, port := port }

/-- The fields of `lws_client_connect_info` that depend on the URL. -/
structure ConnectInfo where
  address : Text
  port : UInt16
  sslConnection : Bool
  path : Text
  host : Text
  origin : Text
deriving DecidableEq

def WebsocketUri.connectInfo (uri : WebsocketUri) : ConnectInfo where
  address := uri.url.host
  port := uri.url.port
  sslConnection := uri.secure
  path := uri.url.getRelativeUrl
  host := uri.url.host
  origin := uri.url.host

/-- `connect` of the client that `SignalClient` makes. -/
def connectInfo (url token : Text) (options : SignalOptions) : Except Exception ConnectInfo := do
  let request ← buildSignalUrl url token options
  let uri ← WebsocketUri.parseAndValidate request
  return uri.connectInfo

/-! ## 2. What is asked for -/

/-- The schemes that a connection may have. -/
def websocketSchemes : List Text := [ascii "ws", ascii "wss", ascii "http", ascii "https"]

/-- A path without the slash in front of it. -/
def withoutSlash (path : Text) : Text :=
  if path.head? = some '/'.toUInt8 then path.tail else path

/-- The connection goes to the host and port of the base, with TLS if its scheme says so; the
    path, read as the library reads one, is that of the base, and its query carries the
    requested parameters and the others of the base. -/
structure AsksFor (token : Text) (options : SignalOptions) (base : Url) (info : ConnectInfo) :
    Prop where
  address : info.address = base.host
  host : info.host = base.host
  origin : info.origin = base.host
  sslConnection : info.sslConnection = true ↔
    base.scheme = ascii "wss" ∨ base.scheme = ascii "https"
  port : info.port =
    if base.port = 0 then (if info.sslConnection then 443 else 80) else base.port
  path : (Url.readPathAndQuery {} info.path).encodedPath =
    withoutSlash (withoutSlash base.encodedPath)
  query : CarriesParameters token options base
    { (Url.readPathAndQuery {} info.path) with
      scheme := base.scheme, host := base.host, port := base.port }

/-! ## 3. The relative URL read again -/

section Relative

variable {url : Url}

/-- The relative URL of an empty path is that of a single slash. -/
theorem getRelativeUrl_eq (url : Url) :
    url.getRelativeUrl = printedRest
      (if url.encodedPath = [] then { url with encodedPath := ascii "/" } else url) := by
  unfold Url.getRelativeUrl Url.getUrlWithoutQuery printedRest printedPath
  cases hpath : url.encodedPath with
  | nil => simp [ascii]
  | cons c path =>
    by_cases hslash : c = '/'.toUInt8
    · simp [hslash, hpath]
    · simp [hslash, hpath, ascii]

/-- The path and query of a printed text are read again, but for a slash in front. -/
theorem readPathAndQuery_printedRest (h : WellFormed url)
    (hquestion : (joined url.encodedQueryParameters).head? ≠ some '?'.toUInt8) :
    Url.readPathAndQuery {} (printedRest url) =
      { encodedPath := withoutSlash url.encodedPath
        encodedQueryParameters := url.encodedQueryParameters } := by
  rw [readPathAndQuery_eq {} rfl (printedRest_head url), pathText_printedRest h,
    queryText_printedRest h]
  exact congrArg (Url.mk [] [] 0 (withoutSlash url.encodedPath))
    (foldl_pieces_joined h.parameters hquestion)

theorem readPathAndQuery_getRelativeUrl (h : WellFormed url)
    (hquestion : (joined url.encodedQueryParameters).head? ≠ some '?'.toUInt8) :
    Url.readPathAndQuery {} url.getRelativeUrl =
      { encodedPath := withoutSlash url.encodedPath
        encodedQueryParameters := url.encodedQueryParameters } := by
  rw [getRelativeUrl_eq]
  split
  · rename_i hempty
    have hslash : WellFormed { url with encodedPath := ascii "/" } := by
      refine ⟨h.lower, h.scheme, h.host, ?_, h.parameters⟩
      intro c hmem
      obtain rfl : c = '/'.toUInt8 := by simpa [ascii] using hmem
      decide
    rw [readPathAndQuery_printedRest hslash hquestion, hempty]
    rfl
  · exact readPathAndQuery_printedRest h hquestion

end Relative

/-! ## 4. The scheme that is read again

A base without a scheme may have `://` in its path or query, and then gets a scheme when it is
read again, but none that is connected to. -/

section Scheme

variable {url : Url}

theorem mem_toLower_of_isHostEnd {c : UInt8} {text : Text} (hend : Url.isHostEnd c = true)
    (hc : c ∈ text) : c ∈ toLower text := by
  have hsame : toLowerChar c = c := by
    simp only [Url.isHostEnd, Bool.or_eq_true, beq_iff_eq] at hend
    rcases hend with (rfl | rfl) | rfl <;> decide
  rw [toLower, List.mem_map]
  exact ⟨c, hc, hsame⟩

theorem behindHost_stop (url : Url) :
    ∀ c ∈ (portText url ++ printedRest url).head?, (!Url.isHostEnd c) = false := by
  intro c hc
  rw [portText] at hc
  split at hc
  · rw [List.cons_append, List.head?_cons, Option.mem_some] at hc
    rw [← hc]
    rfl
  · rw [List.nil_append] at hc
    rcases printedRest_head url c hc with rfl | rfl <;> rfl

/-- A scheme that is read where there was none has a character that ends a host. -/
theorem exists_isHostEnd_of_reread (h : WellFormed url) (hempty : url.scheme = [])
    {reread : Url} (hnew : Url.new url.getAbsoluteUrl = .ok reread)
    (hscheme : reread.scheme ≠ []) : ∃ c ∈ reread.scheme, Url.isHostEnd c = true := by
  obtain ⟨_, _, hcut, -⟩ := new_eq_ok hnew
  have hread := hcut.scheme
  have htext : url.getAbsoluteUrl = url.host ++ (portText url ++ printedRest url) := by
    rw [getAbsoluteUrl_eq, hempty, List.isEmpty_nil, if_pos rfl, List.nil_append]
  rw [htext, Url.readScheme] at hread
  cases hfind : find (ascii "://") (url.host ++ (portText url ++ printedRest url)) with
  | none =>
    rw [hfind] at hread
    exact absurd (congrArg Prod.fst hread).symm hscheme
  | some schemePos =>
    rw [hfind] at hread
    have hsplit := eq_of_find_eq_some hfind
    have hlower : reread.scheme =
        toLower ((url.host ++ (portText url ++ printedRest url)).take schemePos) :=
      (congrArg Prod.fst hread).symm
    generalize (url.host ++ (portText url ++ printedRest url)).take schemePos = front
      at hsplit hlower
    generalize (url.host ++ (portText url ++ printedRest url)).drop
      (schemePos + (ascii "://").length) = more at hsplit
    by_contra hnone
    have hfront : ∀ c ∈ front, (!Url.isHostEnd c) = true := by
      intro c hc
      rw [Bool.not_eq_true', ← Bool.not_eq_true]
      intro hend
      rw [not_exists] at hnone
      apply hnone c
      rw [hlower]
      exact ⟨mem_toLower_of_isHostEnd hend hc, hend⟩
    have hhost : ∀ c ∈ url.host, (!Url.isHostEnd c) = true := by
      intro c hc
      rw [h.host c hc, Bool.not_false]
    have hstop : ∀ c ∈ (ascii "://" ++ more).head?, (!Url.isHostEnd c) = false := by
      intro c hc
      rw [← Option.mem_some.mp hc]
      rfl
    -- both cuts are made at the first character that ends a host
    have hleft := takeWhile_append_stop hhost (behindHost_stop url)
    have hright := takeWhile_append_stop hfront hstop
    rw [hsplit, List.append_assoc, hright] at hleft
    rw [hleft, List.append_assoc] at hsplit
    have hbehind := List.append_cancel_left hsplit
    have hwell : WellFormed { url with host := [] } :=
      ⟨h.lower, h.scheme, by simp, h.path, h.parameters⟩
    exact not_prefix_behind hwell ⟨more, hbehind.symm⟩

end Scheme

/-! ## 5. The handshake -/

theorem websocketScheme_eq_ok_iff {scheme used : Text} :
    websocketScheme scheme = .ok used ↔ scheme ∈ websocketSchemes ∧
      used = if scheme = ascii "wss" ∨ scheme = ascii "https" then ascii "wss" else ascii "ws" := by
  have hdistinct : ascii "ws" ≠ ascii "wss" ∧ ascii "ws" ≠ ascii "https" ∧
      ascii "http" ≠ ascii "wss" ∧ ascii "http" ≠ ascii "https" := by decide
  rw [websocketScheme]
  split
  · rename_i hhttp
    subst hhttp
    simp [websocketSchemes, hdistinct.2.2.1, hdistinct.2.2.2, eq_comm]
  · rename_i hhttp
    split
    · rename_i hhttps
      subst hhttps
      simp [websocketSchemes, eq_comm]
    · rename_i hhttps
      split
      · rename_i hother
        simp [websocketSchemes, hhttp, hhttps, hother]
      · rename_i hwebsocket
        rw [not_and_not_right] at hwebsocket
        by_cases hws : scheme = ascii "ws"
        · subst hws
          simp [websocketSchemes, hdistinct.1, hdistinct.2.1, eq_comm]
        · obtain rfl := hwebsocket hws
          simp [websocketSchemes, eq_comm]

theorem parseAndValidate_eq_ok_iff {uri : Text} {result : WebsocketUri} :
    WebsocketUri.parseAndValidate uri = .ok result ↔
      uri ≠ [] ∧ ∃ url scheme, Url.new uri = .ok url ∧ websocketScheme url.scheme = .ok scheme ∧
        url.host ≠ [] ∧ result = .new
          { url with
            scheme := scheme
            port := if url.port = 0 then (if scheme = ascii "wss" then 443 else 80)
              else url.port } := by
  constructor
  · intro hresult
    rw [WebsocketUri.parseAndValidate] at hresult
    by_cases hempty : uri = []
    · rw [hempty] at hresult
      cases hresult
    · rw [List.isEmpty_eq_false_iff.2 hempty] at hresult
      cases hnew : Url.new uri with
      | error e =>
        rw [hnew] at hresult
        cases hresult
      | ok url =>
        rw [hnew] at hresult
        cases hscheme : websocketScheme url.scheme with
        | error e =>
          simp only [bind, Except.bind, hscheme] at hresult
          cases hresult
        | ok scheme =>
          simp only [bind, Except.bind, pure, Except.pure, hscheme] at hresult
          by_cases hhost : url.host = []
          · simp only [hhost, List.isEmpty_nil, if_true] at hresult
            cases hresult
          · simp only [List.isEmpty_eq_false_iff.2 hhost] at hresult
            exact ⟨hempty, url, scheme, rfl, hscheme, hhost, (Except.ok.inj hresult).symm⟩
  · rintro ⟨hempty, url, scheme, hnew, hscheme, hhost, rfl⟩
    rw [WebsocketUri.parseAndValidate, List.isEmpty_eq_false_iff.2 hempty, hnew]
    simp only [bind, Except.bind, pure, Except.pure, hscheme, List.isEmpty_eq_false_iff.2 hhost]
    rfl

variable {text token : Text} {options : SignalOptions} {base : Url}

theorem buildSignalUrl_of_new (hnew : Url.new text = .ok base) :
    buildSignalUrl text token options = .ok (requestUrl token options base).getAbsoluteUrl := by
  rw [buildSignalUrl, hnew, ← setParameters_eq]
  rfl

/-- The signal URL as it is read again. -/
def reread (token : Text) (options : SignalOptions) (base : Url) : Url :=
  { requestUrl token options base with encodedPath := withoutSlash base.encodedPath }

theorem encodedPath_reread (token : Text) (options : SignalOptions) (base : Url) :
    (reread token options base).encodedPath = withoutSlash base.encodedPath := by
  simp only [reread]

theorem parameters_reread (token : Text) (options : SignalOptions) (base : Url) :
    (reread token options base).encodedQueryParameters =
      (requestUrl token options base).encodedQueryParameters := by
  simp only [reread]

/-- The signal URL of a base with a scheme is read as the base with the parameters set. -/
theorem new_signalUrl (hnew : Url.new text = .ok base) (hscheme : base.scheme ≠ [])
    (hkeys : ∀ name value : Text, base.encodedQueryParameters[name]? = some value →
      name.head? ≠ some '?'.toUInt8) :
    Url.new (requestUrl token options base).getAbsoluteUrl = .ok (reread token options base) := by
  have hbase := wellFormed_of_new hnew
  have hwell := wellFormed_requestUrl token options hbase
  rw [new_getAbsoluteUrl hwell fun hempty => absurd hempty hscheme,
    foldl_pieces_joined hwell.parameters (joined_requestUrl_head hbase hkeys)]
  rfl

/-- No scheme that is connected to has a character that ends a host. -/
theorem isHostEnd_websocketSchemes : ∀ scheme ∈ websocketSchemes,
    ∀ c ∈ scheme, Url.isHostEnd c = false := by
  have hall : (websocketSchemes.all fun scheme =>
      scheme.all fun c => !Url.isHostEnd c) = true := by decide
  simpa using hall

/-- What is connected to has the scheme of the base. -/
theorem scheme_of_accepted (hnew : Url.new text = .ok base) {read : Url} {scheme : Text}
    (hread : Url.new (requestUrl token options base).getAbsoluteUrl = .ok read)
    (haccepted : websocketScheme read.scheme = .ok scheme) : base.scheme ≠ [] := by
  intro hempty
  have hmem := (websocketScheme_eq_ok_iff.1 haccepted).1
  have hnonempty : read.scheme ≠ [] := by
    intro hnone
    rw [hnone] at hmem
    exact absurd hmem (by decide)
  have hwell := wellFormed_requestUrl token options (wellFormed_of_new hnew)
  obtain ⟨c, hc, hend⟩ := exists_isHostEnd_of_reread hwell hempty hread hnonempty
  rw [isHostEnd_websocketSchemes read.scheme hmem c hc] at hend
  exact Bool.noConfusion hend

/-- The path and query do not depend on the rest. -/
theorem connectInfo_path (url : Url) (scheme : Text) (port : UInt16) :
    (WebsocketUri.new { url with scheme := scheme, port := port }).connectInfo.path =
      url.getRelativeUrl := rfl

theorem connectInfo_eq_ok_iff (hnew : Url.new text = .ok base)
    (hkeys : ∀ name value : Text, base.encodedQueryParameters[name]? = some value →
      name.head? ≠ some '?'.toUInt8) {info : ConnectInfo} :
    connectInfo text token options = .ok info ↔
      ∃ scheme, websocketScheme base.scheme = .ok scheme ∧ base.host ≠ [] ∧
        info = (WebsocketUri.new
          { reread token options base with
            scheme := scheme
            port := if base.port = 0 then (if scheme = ascii "wss" then 443 else 80)
              else base.port }).connectInfo := by
  have hrun : connectInfo text token options =
      (WebsocketUri.parseAndValidate (requestUrl token options base).getAbsoluteUrl).map
        WebsocketUri.connectInfo := by
    rw [connectInfo, buildSignalUrl_of_new hnew]
    rfl
  rw [hrun]
  constructor
  · intro hinfo
    cases hparse : WebsocketUri.parseAndValidate
        (requestUrl token options base).getAbsoluteUrl with
    | error e =>
      rw [hparse] at hinfo
      cases hinfo
    | ok uri =>
      rw [hparse] at hinfo
      obtain ⟨-, read, scheme, hread, haccepted, hhost, rfl⟩ :=
        parseAndValidate_eq_ok_iff.1 hparse
      have hscheme := scheme_of_accepted hnew hread haccepted
      rw [new_signalUrl hnew hscheme hkeys] at hread
      obtain rfl := Except.ok.inj hread
      exact ⟨scheme, haccepted, hhost, (Except.ok.inj hinfo).symm⟩
  · rintro ⟨scheme, haccepted, hhost, rfl⟩
    have hscheme : base.scheme ≠ [] := by
      intro hnone
      have hmem := (websocketScheme_eq_ok_iff.1 haccepted).1
      rw [hnone] at hmem
      exact absurd hmem (by decide)
    have hnonempty : (requestUrl token options base).getAbsoluteUrl ≠ [] := by
      rw [getAbsoluteUrl_eq]
      have hsame : (requestUrl token options base).scheme = base.scheme := rfl
      rw [hsame, List.isEmpty_eq_false_iff.2 hscheme]
      simp [hscheme]
    rw [parseAndValidate_eq_ok_iff.2 ⟨hnonempty, _, scheme, new_signalUrl hnew hscheme hkeys,
      haccepted, hhost, rfl⟩]
    rfl

theorem asksFor_of_accepted (hnew : Url.new text = .ok base)
    (hkeys : ∀ name value : Text, base.encodedQueryParameters[name]? = some value →
      name.head? ≠ some '?'.toUInt8) {info : ConnectInfo}
    (hinfo : connectInfo text token options = .ok info) : AsksFor token options base info := by
  obtain ⟨scheme, haccepted, hhost, rfl⟩ := (connectInfo_eq_ok_iff hnew hkeys).1 hinfo
  obtain ⟨hmem, hused⟩ := websocketScheme_eq_ok_iff.1 haccepted
  have hscheme : base.scheme ≠ [] := by
    intro hnone
    rw [hnone] at hmem
    exact absurd hmem (by decide)
  have hread : WellFormed (reread token options base) :=
    wellFormed_of_new (new_signalUrl hnew hscheme hkeys)
  have hrelative : Url.readPathAndQuery {} (reread token options base).getRelativeUrl =
      { encodedPath := withoutSlash (withoutSlash base.encodedPath)
        encodedQueryParameters := (requestUrl token options base).encodedQueryParameters } := by
    rw [readPathAndQuery_getRelativeUrl hread, encodedPath_reread, parameters_reread]
    rw [parameters_reread]
    exact joined_requestUrl_head (wellFormed_of_new hnew) hkeys
  have hdistinct : ascii "ws" ≠ ascii "wss" := by decide
  have hsecure : scheme = ascii "wss" ↔ base.scheme = ascii "wss" ∨ base.scheme = ascii "https" := by
    rw [hused]
    split
    · rename_i hsecure
      exact iff_of_true rfl hsecure
    · rename_i hplain
      exact iff_of_false hdistinct hplain
  constructor
  · rfl
  · rfl
  · rfl
  · exact beq_iff_eq.trans hsecure
  · simp only [WebsocketUri.connectInfo, WebsocketUri.new, beq_iff_eq]
  · rw [connectInfo_path, hrelative]
  · rw [connectInfo_path, hrelative]
    apply CarriesParameters.of_requestUrl
    all_goals simp only

/-- **The handshake.**  For a base whose parameter names do not begin with `?`, a connection is
    made exactly when the base has one of the four schemes and a host, and it asks for the
    path of the base, less up to two leading slashes, with the requested parameters. -/
theorem handshake_iff (text token : Text) (options : SignalOptions) (base : Url)
    (hnew : Url.new text = .ok base)
    (hkeys : ∀ name value : Text, base.encodedQueryParameters[name]? = some value →
      name.head? ≠ some '?'.toUInt8) :
    ((∃ info, connectInfo text token options = .ok info) ↔
      base.scheme ∈ websocketSchemes ∧ base.host ≠ []) ∧
    ∀ info, connectInfo text token options = .ok info → AsksFor token options base info := by
  refine ⟨?_, fun info hinfo => asksFor_of_accepted hnew hkeys hinfo⟩
  constructor
  · rintro ⟨info, hinfo⟩
    obtain ⟨scheme, haccepted, hhost, -⟩ := (connectInfo_eq_ok_iff hnew hkeys).1 hinfo
    exact ⟨(websocketScheme_eq_ok_iff.1 haccepted).1, hhost⟩
  · rintro ⟨hmem, hhost⟩
    have haccepted := websocketScheme_eq_ok_iff.2 ⟨hmem, rfl⟩
    exact ⟨_, (connectInfo_eq_ok_iff hnew hkeys).2 ⟨_, haccepted, hhost, rfl⟩⟩

/-- A connection with TLS to the default port. -/
theorem handshake_existingBase :
    (∃ info, connectInfo (ascii "wss://example.com/rtc?existing=kept") (ascii "t&sid=other#")
        {} = .ok info) ∧
      ∀ info, connectInfo (ascii "wss://example.com/rtc?existing=kept") (ascii "t&sid=other#")
        {} = .ok info → info.port = 443 := by
  have hkeys : ∀ name value : Text,
      existingBase.encodedQueryParameters[name]? = some value →
        name.head? ≠ some '?'.toUInt8 := by
    intro name value hvalue
    rw [getElem?_parameters_of_new existingBase_accepted] at hvalue
    obtain ⟨piece, hmem, rfl, -⟩ := hvalue.exists_piece
    have hpieces : pieces (queryText (behindAuthority
        (ascii "wss://example.com/rtc?existing=kept"))) = [ascii "existing=kept"] := by decide
    rw [hpieces, List.mem_singleton] at hmem
    subst hmem
    decide
  obtain ⟨haccepts, hasks⟩ := handshake_iff (ascii "wss://example.com/rtc?existing=kept")
    (ascii "t&sid=other#") {} existingBase existingBase_accepted hkeys
  refine ⟨haccepts.2 ⟨by decide, by decide⟩, fun info hinfo => ?_⟩
  have hport := (hasks info hinfo).port
  have hssl := (hasks info hinfo).sslConnection.2 (Or.inl rfl)
  rw [hssl] at hport
  exact hport

end LivekitClient.WebsocketHandshake
