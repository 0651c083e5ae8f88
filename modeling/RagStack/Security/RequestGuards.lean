import RagStack.Core.Utf8

/-!
# `csrf.service.ts`, `csrf.guard.ts`, `origin.guard.ts`

Before a request reaches its handler, one guard compares its origin and another its CSRF token: the
same token has to come in the cookie and in a header, and the server must have signed it.  The HMAC,
as base64url, is a parameter, and so is the parser of URLs.  Values of cookies and headers hold no
lone surrogates.

A token is a nonce, a dot, and the signature of the nonce.  The nonce may hold dots itself as far as
`validate` is concerned, so the text is cut at the last one.  This is unambiguous because a
signature in base64url has no dot, and that is all the guards need to know of the HMAC. Whoever
cannot compute the signature cannot write a token, and whoever cannot read the cookie cannot put it
into a header; the guards check the second and leave the first to the secret.

The theorem says which requests pass, as an equivalence.  What passes without a token are methods
that change nothing.  For all others the origin must be that of the application the path belongs to,
or in development that of the API itself, and one signed token must come twice.  The exception for
development compares an origin that may be missing with a host that may be missing too, so there a
request with neither passes the first guard.

`safeEqual` compares lengths first and then bytes in constant time.  As a function it is equality.

* `issue`, `validate` — `CsrfService`.
* `originGuard`, `csrfGuard`, `requestGuards` — the guards, in the order of `AppModule`.
* `validate_iff` — which pairs of tokens are valid.
* `requestGuards_iff` — which requests reach their handlers.
-/

namespace RagStack

/-! ## `CsrfService`

Tokens are lists of characters, so that cutting one is a matter of positions. -/

/-- `safeEqual`, on the bytes of two texts. -/
def safeEqual (left right : List Char) : Bool :=
  let leftBuffer := encodeText left
  let rightBuffer := encodeText right
  leftBuffer.length = rightBuffer.length && leftBuffer = rightBuffer

/-- `text.lastIndexOf(c)`, in characters. -/
def lastIndexOf (c : Char) (text : List Char) : ℤ :=
  if c ∈ text then text.length - 1 - text.reverse.idxOf c else -1

section Csrf

variable (sign : List Char → List Char)

/-- `CsrfService.issue`, with the random bytes as base64url. -/
def issue (nonce : List Char) : List Char := nonce ++ '.' :: sign nonce

/-- `CsrfService.validate`; `none` is a value that is not a string. -/
def validate (cookieToken headerToken : Option (List Char)) : Bool :=
  match cookieToken, headerToken with
  | some cookieToken, some headerToken =>
      if !safeEqual cookieToken headerToken then false
      else
        let separator := lastIndexOf '.' cookieToken
        if separator < 1 then false
        else
          let nonce := cookieToken.take separator.toNat
          let signature := cookieToken.drop (separator.toNat + 1)
          safeEqual signature (sign nonce)
  | _, _ => false

end Csrf

/-! ## The guards

In the order in which `AppModule` registers them.  A request that both would refuse gets the error
of the first. -/

/-- What the guards read of the environment: the two applications that may send requests, and
whether this is development. -/
structure GuardConfig where
  webOrigin : String
  adminOrigin : String
  development : Bool
  deriving Repr, DecidableEq

/-- What the guards read of a request.  A header or a cookie that is missing is `none`, and so is
one that is not a string. -/
structure GuardedRequest where
  method : String
  originalUrl : String
  protocol : String
  host : Option String
  origin : Option String
  csrfCookie : Option (List Char)
  csrfHeader : Option (List Char)
  deriving Repr, DecidableEq

/-- `ForbiddenException`. -/
inductive GuardError where
  | Forbidden (message : String)
  deriving Repr, DecidableEq

/-- `SAFE_METHODS`. -/
def safeMethods : List String := ["GET", "HEAD", "OPTIONS"]

/-- `ADMIN_ROUTE_PREFIX`. -/
def adminRoutePrefix : String := "/api/v1/admin"

section Guards

variable (pathname : String → Option String) (config : GuardConfig) (sign : List Char → List Char)

def isAdminPath (url : String) : Bool :=
  if url = "" then false
  else match pathname url with
    | none => false
    | some path =>
        path.toLower = adminRoutePrefix || path.toLower.startsWith (adminRoutePrefix ++ "/")

def resolveCorsOrigin (url : String) : String :=
  if isAdminPath pathname url then config.adminOrigin else config.webOrigin

/-- The origin of the API itself. -/
def apiOrigin (request : GuardedRequest) : Option String :=
  match request.host with
  | some host => if host = "" then none else some (request.protocol ++ "://" ++ host)
  | none => none

/-- `OriginGuard.canActivate`. -/
def originGuard (request : GuardedRequest) : Except GuardError Unit :=
  if request.method ∈ safeMethods then .ok ()
  else if request.origin = some (resolveCorsOrigin pathname config request.originalUrl) then .ok ()
  else if config.development && request.origin = apiOrigin request then .ok ()
  else .error (.Forbidden "Request origin is not allowed.")

/-- `CsrfGuard.canActivate`. -/
def csrfGuard (request : GuardedRequest) : Except GuardError Unit :=
  if request.method ∈ safeMethods then .ok ()
  else if !validate sign request.csrfCookie request.csrfHeader then
    .error (.Forbidden "Invalid CSRF token.")
  else .ok ()

/-- The guards of the application, one after the other. -/
def requestGuards (request : GuardedRequest) : Except GuardError Unit := do
  originGuard pathname config request
  csrfGuard sign request

end Guards

/-! ## Texts

Cutting a text at its last dot. -/

lemma encodeText_injective : Function.Injective encodeText :=
  Function.LeftInverse.injective (g := fun bytes => (decodeBytes .ready bytes).1)
    decodeBytes_encodeText

@[simp] lemma safeEqual_iff {left right : List Char} : safeEqual left right = true ↔ left = right := by
  simp only [safeEqual, Bool.and_eq_true, decide_eq_true_eq]
  exact ⟨fun h => encodeText_injective h.2, by rintro rfl; exact ⟨rfl, rfl⟩⟩

/-- The last of a character is where no other follows. -/
lemma lastIndexOf_append {c : Char} {front back : List Char} (hback : c ∉ back) :
    lastIndexOf c (front ++ c :: back) = front.length := by
  have hbehind : (front ++ c :: back).reverse.idxOf c = back.length := by
    rw [List.reverse_append, List.reverse_cons, List.append_assoc,
      List.idxOf_append_of_notMem (by simpa using hback)]
    simp
  rw [lastIndexOf, if_pos List.mem_append_cons_self, hbehind]
  simp only [List.length_append, List.length_cons]
  omega

/-- A text in which a character is found, around the last of them. -/
lemma exists_of_lastIndexOf {c : Char} {text : List Char} (h : 0 ≤ lastIndexOf c text) :
    ∃ front back, text = front ++ c :: back ∧ c ∉ back := by
  have hmem : c ∈ text := by
    by_contra hnot
    rw [lastIndexOf, if_neg hnot] at h
    omega
  obtain ⟨back, front, hreverse, hback⟩ := List.eq_append_cons_of_mem (List.mem_reverse.mpr hmem)
  refine ⟨front.reverse, back.reverse, ?_, by simpa using hback⟩
  rw [← List.reverse_inj, hreverse]
  simp

/-! ## Valid tokens

One direction is that what was issued is valid, the other that what is valid was issued for some
nonce. -/

section Valid

variable {sign : List Char → List Char}

/-- **A pair of tokens is valid** exactly if both are one token that the server has signed, for a
nonce that is not empty. -/
lemma validate_iff (hsign : ∀ value, '.' ∉ sign value) {cookieToken headerToken : Option (List Char)} :
    validate sign cookieToken headerToken = true
      ↔ ∃ nonce ≠ [], cookieToken = some (issue sign nonce)
        ∧ headerToken = some (issue sign nonce) := by
  constructor
  · intro h
    obtain _ | cookie := cookieToken
    · cases h
    obtain _ | header := headerToken
    · cases h
    simp only [validate] at h
    split at h
    · cases h
    rename_i hequal
    rw [Bool.not_eq_true', Bool.not_eq_false, safeEqual_iff] at hequal
    split at h
    · cases h
    rename_i hseparator
    have hfound : 0 ≤ lastIndexOf '.' cookie := by omega
    obtain ⟨nonce, signature, rfl, hdot⟩ := exists_of_lastIndexOf hfound
    rw [lastIndexOf_append hdot] at h hseparator
    have htake : (nonce ++ '.' :: signature).take nonce.length = nonce := List.take_left
    have hdrop : (nonce ++ '.' :: signature).drop (nonce.length + 1) = signature := by
      rw [← List.drop_drop, List.drop_left]
      rfl
    rw [Int.toNat_natCast, htake, hdrop, safeEqual_iff] at h
    refine ⟨nonce, ?_, by rw [h, issue], by rw [← hequal, h, issue]⟩
    rintro rfl
    exact hseparator (by decide)
  · rintro ⟨nonce, hne, rfl, rfl⟩
    have hlength : ¬ ((nonce.length : ℤ) < 1) := by
      have hpos := List.length_pos_iff.mpr hne
      omega
    have htake : (issue sign nonce).take nonce.length = nonce := List.take_left
    have hdrop : (issue sign nonce).drop (nonce.length + 1) = sign nonce := by
      rw [← List.drop_drop, issue, List.drop_left]
      rfl
    have hindex : lastIndexOf '.' (issue sign nonce) = nonce.length :=
      lastIndexOf_append (hsign nonce)
    have hequal : ∀ text, safeEqual text text = true := fun _ => safeEqual_iff.mpr rfl
    simp only [validate, hindex, if_neg hlength, Int.toNat_natCast, htake, hdrop, hequal]
    rfl

lemma issue_injective (hsign : ∀ value, '.' ∉ sign value) : Function.Injective (issue sign) := by
  intro nonce nonce' h
  have hindex : ∀ nonce, lastIndexOf '.' (issue sign nonce) = nonce.length := fun nonce =>
    lastIndexOf_append (hsign nonce)
  have hlength : (nonce.length : ℤ) = nonce'.length := by rw [← hindex, h, hindex]
  exact (List.append_inj h (by omega)).1

end Valid

/-! ## What reaches a handler

The two guards together. -/

/-- The origin that a request needs, if it changes anything: that of the application its path
belongs to, or in development that of the API. -/
def OriginAllowed (pathname : String → Option String) (config : GuardConfig)
    (request : GuardedRequest) : Prop :=
  request.origin = some (resolveCorsOrigin pathname config request.originalUrl)
    ∨ config.development = true ∧ request.origin = apiOrigin request

/-- **What reaches a handler**: what changes nothing; otherwise what comes from the application the
path belongs to and has one signed token in its cookie and in its header. -/
theorem requestGuards_iff (pathname : String → Option String) (config : GuardConfig)
    (sign : List Char → List Char) (hsign : ∀ value, '.' ∉ sign value) (request : GuardedRequest) :
    requestGuards pathname config sign request = .ok ()
      ↔ request.method ∈ safeMethods
        ∨ OriginAllowed pathname config request
          ∧ ∃ nonce ≠ [], request.csrfCookie = some (issue sign nonce)
            ∧ request.csrfHeader = some (issue sign nonce) := by
  rw [← validate_iff hsign]
  by_cases hsafe : request.method ∈ safeMethods
  · simp [requestGuards, originGuard, csrfGuard, hsafe, bind, Except.bind]
  · by_cases horigin : OriginAllowed pathname config request
    · have hpass : originGuard pathname config request = .ok () := by
        rw [originGuard, if_neg hsafe]
        rcases horigin with horigin | hdevelopment
        · rw [if_pos horigin]
        · split
          · rfl
          · rw [if_pos (by simpa using hdevelopment)]
      cases hvalid : validate sign request.csrfCookie request.csrfHeader <;>
        simp [requestGuards, hpass, csrfGuard, hsafe, hvalid, horigin, bind, Except.bind]
    · have hstop : originGuard pathname config request
          = .error (.Forbidden "Request origin is not allowed.") := by
        simp only [OriginAllowed, not_or] at horigin
        rw [originGuard, if_neg hsafe, if_neg horigin.1, if_neg (by simpa using horigin.2)]
      simp [requestGuards, hstop, hsafe, horigin, bind, Except.bind]

/-- A signature for examples: the text itself, without what base64url does not have. -/
def plainSign (value : List Char) : List Char := value.filter (· ≠ '.')

lemma dot_notMem_plainSign (value : List Char) : '.' ∉ plainSign value := by
  simp [plainSign]

/-- A request of the web application reaches its handler with a token whose nonce holds a dot. -/
theorem requestGuards_iff_post :
    let config : GuardConfig := ⟨"https://chat.example", "https://admin.example", false⟩
    let token := issue plainSign ['a', '.', 'b']
    let request : GuardedRequest :=
      ⟨"POST", "/api/v1/chats", "https", some "api.example", some "https://chat.example", some token,
        some token⟩
    requestGuards some config plainSign request = .ok ()
      ↔ request.method ∈ safeMethods
        ∨ OriginAllowed some config request
          ∧ ∃ nonce ≠ [], request.csrfCookie = some (issue plainSign nonce)
            ∧ request.csrfHeader = some (issue plainSign nonce) :=
  requestGuards_iff some _ plainSign dot_notMem_plainSign _

end RagStack
