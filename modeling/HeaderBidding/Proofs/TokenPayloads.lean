import Mathlib.Tactic.Lemma
import HeaderBidding.Proofs.InHouse

/-!
# Trading tokens in for their payloads

The in-house client trades a token in for its display address (`Client.displayUrl`) or for its
native assets (`Client.nativeValue`). Both first trade the token in for a format
(`TokenStore.resolve`) and only then look at the kind of payload it stands for, so a single-use
token traded in for its own format is used up whatever its payload is.

Along every run of the client, every token's payload fits its format: native assets exactly for
the native format (`Client.fits_runAll`), because the bid a get shows is native exactly when the
unit is. For a store where that holds and a token it keeps, unexpired at the clock:

* asking for native assets and getting none leaves the client as it was
  (`Client.nativeValue_snd_of_none`): the token is of a display format, and a token of another
  format is kept;
* asking for a display address and getting none leaves the client as it was, except when tokens
  are single-use and a native token is asked for in the native format; then the token, and only
  it, is used up (`Client.displayUrl_snd_of_none`), and the answer is always none there
  (`Client.displayUrl_native_of_lookup`).
-/

namespace HeaderBidding

open Token

/-! ### Payloads that fit their format -/

namespace TokenValue

/-- A token value fits its format when its payload is native assets exactly for the native
format. -/
def Fits (v : TokenValue) : Prop :=
  v.format = .native ↔ ∃ a, v.payload = .native a

/-- The value of a bid fits a format for which the bid is native exactly when the format is. -/
lemma fits_ofBid {b : Bid} {f : Format} (h : b.isNative = true ↔ f = .native) :
    (ofBid b f).Fits := by
  unfold Fits ofBid
  cases hp : b.payload with
  | displayUrl url =>
    have hf : f ≠ .native := fun hf => by simpa [Bid.isNative, hp] using h.mpr hf
    simp [hf]
  | native a =>
    have hf : f = .native := h.mp (by simp [Bid.isNative, hp])
    simp [hf]

end TokenValue

namespace TokenStore

variable {s : TokenStore} {t : Uuid} {v : TokenValue}

/-- Every token the store keeps fits its format. -/
def Fits (s : TokenStore) : Prop :=
  ∀ e ∈ s.entries, e.2.Fits

lemma fits_empty (r : Retention) : (empty r).Fits := by
  intro e he
  cases he

lemma Fits.lookup (hs : s.Fits) (h : s.lookup t = some v) : v.Fits :=
  hs (t, v) (lookup_eq_some_iff.mp h)

lemma Fits.put (hs : s.Fits) (hv : v.Fits) (now : Int) : (s.put t v now).Fits := by
  rintro ⟨t', v'⟩ he
  rcases mem_put.mp he with ⟨hmem, -, -⟩ | ⟨-, rfl⟩
  · exact hs _ hmem
  · exact hv

lemma Fits.erase (hs : s.Fits) (t : Uuid) : (s.erase t).Fits := by
  rintro ⟨t', v'⟩ he
  exact hs _ (mem_erase.mp he).1

/-- A trade-in keeps the store or drops a token, so what fits stays fitting. -/
lemma Fits.resolve (hs : s.Fits) (token : Option Uuid) (f : Format) (now : Int) :
    (s.resolve token f now).2.Fits := by
  cases token with
  | none => exact hs
  | some t =>
    rcases resolve_snd_eq_or s t f now with heq | heq <;> rw [heq]
    · exact hs
    · exact hs.erase t

end TokenStore

/-! ### Along every run -/

namespace Client

variable {c c' : Client}

lemma KeepsTokens.fits (h : KeepsTokens c c') (ht : c.tokens.Fits) : c'.tokens.Fits := by
  rw [h.tokens]
  exact ht

@[simp] lemma tokens_tokenValue (c : Client) (token : Option Uuid) (f : Format) :
    (c.tokenValue token f).2.tokens = (c.tokens.resolve token f c.clock).2 := rfl

lemma fits_inhouseBid (hc : c.bidder.WellCached) (ht : c.tokens.Fits) (unit : Option AdUnit) :
    (c.inhouseBid unit).2.tokens.Fits := by
  cases unit with
  | none => exact ht
  | some u =>
    cases hshown : (c.get (some u)).1 with
    | none =>
      rw [inhouseBid_of_not_shown hshown, (keepsTokens_get c _).tokens]
      exact ht
    | some s =>
      -- the shown bid is native exactly when the unit is, so its value fits the unit's format
      rw [tokens_inhouseBid_of_shown hshown]
      exact ht.put (TokenValue.fits_ofBid (isNative_iff_of_shown hc hshown)) _

lemma fits_serveToken (ht : c.tokens.Fits) (req : Http.Request) :
    (serveToken req c).2.tokens.Fits := by
  unfold serveToken
  split
  · exact ht
  · rename_i j _
    dsimp only
    have htrade : (c.tokenValue (some (TokenQuery.ofJson j).token)
        (TokenQuery.ofJson j).format).2.tokens.Fits := by
      rw [tokens_tokenValue]
      exact ht.resolve _ _ _
    rcases hv : c.tokenValue (some (TokenQuery.ofJson j).token) (TokenQuery.ofJson j).format
      with ⟨_ | v, c₁⟩ <;> rw [hv] at htrade
    · rw [(reports_logWaiting c₁ _ _).tokens]
      exact htrade
    · exact htrade

lemma fits_serve (hc : c.bidder.WellCached) (ht : c.tokens.Fits) (req : Http.Request) :
    (c.serve req).2.tokens.Fits := by
  rw [serve_snd]
  split
  · rcases serveBid_snd_cases req c with heq | ⟨u, hkeeps⟩
    · rw [heq]
      exact ht
    · rw [hkeeps.tokens]
      exact fits_inhouseBid hc ht (some u)
  · split
    · exact fits_serveToken ht req
    · exact ht

/-- Every step keeps every token fitting its format, when the cache is well formed. -/
lemma fits_step (hc : c.bidder.WellCached) (ht : c.tokens.Fits) (st : Step) :
    (c.step st).2.tokens.Fits := by
  cases st with
  | get unit => exact (keepsTokens_get c unit).fits ht
  | prefetch units => exact (keepsTokens_prefetch c units).fits ht
  | start i => exact (reports_started c i).keepsTokens.fits ht
  | respond i start status body => exact (keepsTokens_respond c i start status body).fits ht
  | fail i start e => exact (keepsTokens_fail c i start e).fits ht
  | wait => exact (keepsTokens_wait c).fits ht
  | inhouseBid unit => exact fits_inhouseBid hc ht unit
  | tokenValue token f => exact ht.resolve token f c.clock
  | displayUrl token f =>
    show (c.displayUrl token f).2.tokens.Fits
    rw [displayUrl_snd]
    exact ht.resolve token f c.clock
  | nativeValue token =>
    show (c.nativeValue token).2.tokens.Fits
    rw [nativeValue_snd]
    exact ht.resolve token .native c.clock
  | http req =>
    rw [step_http_snd]
    exact fits_serve hc ht req
  | stop | setClock _ | advance _ | killSwitch _ | refreshConfig _ | remoteConfig | mapperMap _
  | pending => exact ht

/-- Every run keeps every token fitting its format, when the cache is well formed. -/
lemma fits_runAll (hc : c.bidder.WellCached) (ht : c.tokens.Fits) (steps : List Step) :
    (c.runAll steps).2.tokens.Fits := by
  induction steps generalizing c with
  | nil => exact ht
  | cons st rest ih =>
    have hc' : (c.step st).2.bidder.WellCached := by
      simpa using wellCached_runAll hc [st]
    exact ih hc' (fits_step hc ht st)

/-! ### Empty answers -/

variable {t : Uuid} {v : TokenValue} {f : Format}

lemma tokenValue_of_format_ne (h : c.tokens.lookup t = some v) (hf : v.format ≠ f) :
    c.tokenValue (some t) f = (none, c) := by
  simp [tokenValue, TokenStore.resolve_of_format_ne h hf]

lemma tokenValue_of_live (h : c.tokens.lookup t = some v) (hlive : c.clock < v.expiresAt) :
    c.tokenValue (some t) v.format =
      (some v, if c.tokens.retention = .singleUse then { c with tokens := c.tokens.erase t }
        else c) := by
  unfold tokenValue
  rw [TokenStore.resolve_of_live h rfl hlive]
  by_cases hr : c.tokens.retention = .singleUse
  · simp only [hr, if_true]
  · simp only [hr, if_false]

/-- A native token traded in for the native format gives no display address. -/
lemma displayUrl_native_of_lookup (ht : c.tokens.Fits) (h : c.tokens.lookup t = some v)
    (hlive : c.clock < v.expiresAt) (hf : v.format = .native) :
    (c.displayUrl (some t) .native).1 = none := by
  obtain ⟨a, ha⟩ := (ht.lookup h).mp hf
  unfold displayUrl
  rw [← hf, tokenValue_of_live h hlive]
  simp [ha]

/-- Asking for native assets and getting none leaves the client as it was. -/
lemma nativeValue_snd_of_none (ht : c.tokens.Fits) (h : c.tokens.lookup t = some v)
    (hlive : c.clock < v.expiresAt) (hnone : (c.nativeValue (some t)).1 = none) :
    (c.nativeValue (some t)).2 = c := by
  by_cases hf : v.format = .native
  · -- a native token stands for native assets, which the trade-in would give
    obtain ⟨a, ha⟩ := (ht.lookup h).mp hf
    rw [nativeValue_of_lookup h hlive hf ha] at hnone
    cases hnone
  · rw [nativeValue_snd, tokenValue_of_format_ne h hf]

/-- Asking for a display address and getting none leaves the client as it was, unless tokens are
single-use and a native token is asked for in the native format: then that token is used up. -/
lemma displayUrl_snd_of_none (ht : c.tokens.Fits) (h : c.tokens.lookup t = some v)
    (hlive : c.clock < v.expiresAt) (hnone : (c.displayUrl (some t) f).1 = none) :
    (c.displayUrl (some t) f).2 =
      if c.tokens.retention = .singleUse ∧ f = .native ∧ v.format = .native then
        { c with tokens := c.tokens.erase t }
      else c := by
  rw [displayUrl_snd]
  by_cases hf : v.format = f
  · subst hf
    -- the trade-in gives the value, whose payload cannot be a display address
    have hnative : v.format = .native := by
      cases hp : v.payload with
      | displayUrl url =>
        rw [displayUrl_of_lookup h hlive hp] at hnone
        cases hnone
      | native a => exact (ht.lookup h).mpr ⟨a, hp⟩
    rw [tokenValue_of_live h hlive]
    simp [hnative]
  · rw [tokenValue_of_format_ne h hf, if_neg]
    rintro ⟨-, rfl, hv⟩
    exact hf hv

end Client

/-- Trading a token in for a payload and getting none keeps the token, except a native token asked
for its display address in the native format, which a single-use store uses up. Every client a
run reaches keeps only tokens whose payload fits their format; and for a client with such tokens,
a token it keeps unexpired at the clock:

* when asking for its native assets gives none, the client is as it was;
* when asking for its display address in a format gives none, the client is as it was, unless
  tokens are single-use, the format is native and the token is native, in which case exactly the
  token is dropped;
* a native token asked for its display address in the native format always gives none. -/
theorem only_native_display_lookups_use_tokens_up :
    (∀ (screen : Screen) (settings : Settings) (retention : Retention) (clock : Int)
        (log : Option RuntimeLog) (configReply : Option RemoteConfig) (link : Link)
        (steps : List Step),
      ((Client.new screen settings retention clock log configReply link).runAll
        steps).2.tokens.Fits) ∧
    ∀ (c : Client) (t : Uuid) (v : TokenValue), c.tokens.Fits → c.tokens.lookup t = some v →
      c.clock < v.expiresAt →
      ((c.nativeValue (some t)).1 = none → (c.nativeValue (some t)).2 = c) ∧
      (∀ f, (c.displayUrl (some t) f).1 = none →
        (c.displayUrl (some t) f).2 =
          if c.tokens.retention = .singleUse ∧ f = .native ∧ v.format = .native then
            { c with tokens := c.tokens.erase t }
          else c) ∧
      (v.format = .native → (c.displayUrl (some t) .native).1 = none) := by
  refine ⟨fun screen _ retention _ _ _ _ steps =>
    Client.fits_runAll (Bidder.wellCached_new screen) (TokenStore.fits_empty retention) steps,
    fun c t v ht h hlive => ⟨Client.nativeValue_snd_of_none ht h hlive,
      fun f hnone => Client.displayUrl_snd_of_none ht h hlive hnone,
      Client.displayUrl_native_of_lookup ht h hlive⟩⟩

/-- Native assets worth `1.5`, handed out for the native format, until `60000`. -/
def nativeTokenValue : TokenValue :=
  ⟨1.5, .native ⟨.null⟩, .native, 60000⟩

/-- A single-use client at clock `0` whose store has handed out one token, the supply's first
identifier, for `nativeTokenValue`. -/
def clientHoldingNativeToken : Client :=
  { Client.new Screen.standard Settings.volatile .singleUse 0 none none .held with
    tokens := ((TokenStore.empty .singleUse).mint nativeTokenValue 0 Fresh.start).2.1
    fresh := ((TokenStore.empty .singleUse).mint nativeTokenValue 0 Fresh.start).2.2 }

/-- Asking that client for the token's display address in the native format uses the token up:
the store drops it. -/
theorem native_token_asked_for_display_is_dropped :
    (clientHoldingNativeToken.displayUrl (some (Uuid.ofSerial 1)) .native).2 =
      { clientHoldingNativeToken with
        tokens := clientHoldingNativeToken.tokens.erase (Uuid.ofSerial 1) } := by
  have hlookup : clientHoldingNativeToken.tokens.lookup (Uuid.ofSerial 1) = some nativeTokenValue :=
    TokenStore.lookup_put_self
  have hfits : clientHoldingNativeToken.tokens.Fits :=
    (TokenStore.fits_empty .singleUse).put ⟨fun _ => ⟨_, rfl⟩, fun _ => rfl⟩ 0
  obtain ⟨-, hkeeps⟩ := only_native_display_lookups_use_tokens_up
  obtain ⟨-, hdisplay, hnative⟩ :=
    hkeeps clientHoldingNativeToken (Uuid.ofSerial 1) nativeTokenValue hfits hlookup (by decide)
  rw [hdisplay .native (hnative rfl), if_pos ⟨rfl, rfl, rfl⟩]

/-- Before the display lookup the token gives its native assets; the lookup gives no address; and
after it the token gives nothing: the lookup swallowed it. -/
theorem display_lookup_swallows_a_native_token :
    (clientHoldingNativeToken.nativeValue (some (Uuid.ofSerial 1))).1 = some ⟨.null⟩ ∧
      (clientHoldingNativeToken.displayUrl (some (Uuid.ofSerial 1)) .native).1 = none ∧
      ((clientHoldingNativeToken.displayUrl (some (Uuid.ofSerial 1)) .native).2.nativeValue
        (some (Uuid.ofSerial 1))).1 = none :=
  ⟨rfl, rfl, rfl⟩

end HeaderBidding
