import Showcase.Lib.History

/-!
# `Btstack.Security` — the security level of a classic link

`hci.c` keeps two flags for a link, `CONNECTION_ENCRYPTED` and `CONNECTION_AUTHENTICATED`, next to the type of its
link key and the size of its encryption key; `gap_security_level_for_connection` computes the level from these. The
CarPlay patch sets the second flag on every Encryption Change that enables encryption. Nothing clears it.

## Contents
- `HciConnection`, `hciInput` — a link between its Connection Complete and its Disconnection Complete;
- `Reported` — a level above `LEVEL_0` rests on the last successful Encryption Change;
- `reported_iff` — a step keeps this exactly when it is `Orderly`;
- **`securityLevel_iff`** — so does a run;
- **`not_securityLevel`** — an E0 downgrade leaves the level where it is.
-/

namespace Showcase.Btstack

open Lib

/-! ## Link keys -/

/-- `gap_security_level_t`. -/
inductive GapSecurityLevel where
  | level0 | level1 | level2 | level3 | level4
  deriving DecidableEq, Repr

/-- The enumeration's values. -/
def GapSecurityLevel.toNat : GapSecurityLevel → Nat
  | .level0 => 0
  | .level1 => 1
  | .level2 => 2
  | .level3 => 3
  | .level4 => 4

/-! `link_key_type_t`: a byte of the event is cast to it as it is. -/

def combinationKey : UInt8 := 0
def authenticatedCombinationKeyGeneratedFromP192 : UInt8 := 5
def changedCombinationKey : UInt8 := 6
def unauthenticatedCombinationKeyGeneratedFromP256 : UInt8 := 7
def authenticatedCombinationKeyGeneratedFromP256 : UInt8 := 8

/-- `gap_security_level_for_link_key_type`. -/
def gapSecurityLevelForLinkKeyType (linkKeyType : UInt8) : GapSecurityLevel :=
  if linkKeyType = authenticatedCombinationKeyGeneratedFromP256 then .level4
  else if linkKeyType = combinationKey ∨ linkKeyType = authenticatedCombinationKeyGeneratedFromP192 then .level3
  else .level2

/-- `gap_secure_connection_for_link_key_type`. -/
def gapSecureConnectionForLinkKeyType (linkKeyType : UInt8) : Bool :=
  linkKeyType = authenticatedCombinationKeyGeneratedFromP256 ∨
    linkKeyType = unauthenticatedCombinationKeyGeneratedFromP256

/-! ## The link -/

/-- What the handlers read of `hci_stack`. `gap_set_required_encryption_key_size` keeps to its range. -/
structure HciStack where
  /-- `local_supported_commands[0] & 0x80`. -/
  readEncryptionKeySize : Bool
  /-- `local_supported_commands[1] & 1`. -/
  readRemoteExtendedFeatures : Bool
  bondable : Bool
  linkKeyDb : Bool
  gapRequiredEncyrptionKeySize : UInt8
  range : 7 ≤ gapRequiredEncyrptionKeySize ∧ gapRequiredEncyrptionKeySize ≤ 16

inductive ConnectionState where
  | opened | sentDisconnect
  deriving DecidableEq, Repr

/-- `hci_connection_t`, with a field for each bit of `authentication_flags` and of `bonding_flags`. -/
structure HciConnection where
  state : ConnectionState
  -- authentication_flags
  handleLinkKeyRequest : Bool
  connectionAuthenticated : Bool
  connectionEncrypted : Bool
  -- bonding_flags
  remoteSupportsScController : Bool
  remoteSupportsScHost : Bool
  disconnectSecurityBlock : Bool
  disconnectDedicatedDone : Bool
  sendAuthenticateRequest : Bool
  sendEncryptionRequest : Bool
  sendReadEncryptionKeySize : Bool
  dedicated : Bool
  emitCompleteOnDisconnect : Bool
  sentAuthenticateRequest : Bool
  bondingStatus : UInt8
  encryptionKeySize : UInt8
  requestedSecurityLevel : GapSecurityLevel
  linkKeyType : UInt8
  /-- `remote_supported_features[0] & 2`. -/
  remoteExtendedFeatures : Bool
  deriving DecidableEq, Repr

/-- `create_connection_for_bd_addr_and_type` behind the `memset` of the pool, and `gap_dedicated_bonding` with its
    `mitm_protection_required`, when the connection is up. -/
def connectionOpened (dedicatedMitm : Option Bool) : HciConnection :=
  { state := .opened, handleLinkKeyRequest := false, connectionAuthenticated := false, connectionEncrypted := false,
    remoteSupportsScController := false, remoteSupportsScHost := false, disconnectSecurityBlock := false,
    disconnectDedicatedDone := false, sendAuthenticateRequest := false, sendEncryptionRequest := false,
    sendReadEncryptionKeySize := false, dedicated := dedicatedMitm.isSome, emitCompleteOnDisconnect := false,
    sentAuthenticateRequest := false, bondingStatus := 0, encryptionKeySize := 0,
    requestedSecurityLevel := match dedicatedMitm with
      | none => .level0
      | some mitm => if mitm then .level3 else .level2
    linkKeyType := combinationKey, remoteExtendedFeatures := false }

/-- `gap_security_level_for_connection`. -/
def gapSecurityLevelForConnection (S : HciStack) : Option HciConnection → GapSecurityLevel
  | none => .level0
  | some conn =>
      if conn.connectionEncrypted = false then .level0
      else if conn.connectionAuthenticated = false then .level0
      else if conn.encryptionKeySize < S.gapRequiredEncyrptionKeySize then .level0
      else
        let securityLevel := gapSecurityLevelForLinkKeyType conn.linkKeyType
        -- LEVEL_4 always needs a key of 128 bits
        if securityLevel = .level4 ∧ conn.encryptionKeySize < 16 then .level3 else securityLevel

/-! ## Events -/

/-- The commands of `hci_run` for a link. -/
inductive HciCommand where
  | disconnect (reason : UInt8)
  | linkKeyRequestReply (linkKeyType : UInt8)
  | linkKeyRequestNegativeReply
  | authenticationRequested
  | setConnectionEncryption
  | readEncryptionKeySize
  deriving DecidableEq, Repr

inductive HciOut where
  | command (cmd : HciCommand)
  /-- `hci_emit_security_level`. -/
  | securityLevel (level : GapSecurityLevel)
  /-- `hci_emit_dedicated_bonding_result`. -/
  | dedicatedBondingResult (status : UInt8)
  /-- `put_link_key` of the link key data base. -/
  | putLinkKey (linkKeyType : UInt8)
  deriving DecidableEq, Repr

/-- What reaches a link: the events of its handle or address, a request of a profile, and a pass of `hci_run` that
    gets to it, with the answer of `get_link_key`. -/
inductive HciInput where
  | encryptionChange (status encryptionEnabled : UInt8)
  | readEncryptionKeySizeComplete (status keySize : UInt8)
  | authenticationComplete (status : UInt8)
  | linkKeyRequest
  | linkKeyNotification (linkKeyType : UInt8)
  | remoteSupportedFeatures (status feature7 : UInt8)
  | remoteExtendedFeatures (status page maximumPage feature0 feature1 : UInt8)
  | gapRequestSecurityLevel (level : GapSecurityLevel)
  | hciRun (linkKey : Option UInt8)
  | disconnectionComplete (status : UInt8)
  deriving DecidableEq, Repr

/-- `hci_handle_read_encryption_key_size_complete`. -/
def hciHandleReadEncryptionKeySizeComplete (S : HciStack) (conn : HciConnection) (encryptionKeySize : UInt8) :
    HciConnection × List HciOut :=
  let conn := { conn with connectionEncrypted := true, encryptionKeySize := encryptionKeySize }
  if conn.connectionAuthenticated then
    (conn, [.securityLevel (gapSecurityLevelForConnection S (some conn))])
  else if conn.sentAuthenticateRequest then (conn, [])
  else ({ conn with sendAuthenticateRequest := true }, [])

/-- `HCI_EVENT_ENCRYPTION_CHANGE` on a classic link. -/
def encryptionChange (S : HciStack) (conn : HciConnection) (status encryptionEnabled : UInt8) :
    HciConnection × List HciOut :=
  if status = 0 then
    if encryptionEnabled ≠ 0 then
      if gapSecureConnectionForLinkKeyType conn.linkKeyType ∧ encryptionEnabled ≠ 2 then
        -- SC during pairing, but only E0 now: the flags stay
        ({ conn with disconnectSecurityBlock := true }, [])
      else
        let conn := { conn with connectionAuthenticated := true }
        if S.readEncryptionKeySize then ({ conn with sendReadEncryptionKeySize := true }, [])
        else hciHandleReadEncryptionKeySizeComplete S conn 16
    else ({ conn with connectionEncrypted := false }, [])
  else (conn, [])

/-- `HCI_EVENT_AUTHENTICATION_COMPLETE_EVENT`. -/
def authenticationComplete (S : HciStack) (conn : HciConnection) (status : UInt8) :
    HciConnection × List HciOut :=
  if conn.sentAuthenticateRequest = false then (conn, [])
  else if conn.dedicated then
    ({ conn with dedicated := false, disconnectDedicatedDone := true, bondingStatus := status }, [])
  else if status = 0 then
    let conn := { conn with connectionAuthenticated := true }
    if conn.requestedSecurityLevel.toNat ≤ (gapSecurityLevelForLinkKeyType conn.linkKeyType).toNat ∧
        conn.connectionEncrypted = false then
      ({ conn with sendEncryptionRequest := true }, [])
    else (conn, [.securityLevel (gapSecurityLevelForConnection S (some conn))])
  else (conn, [.securityLevel (gapSecurityLevelForConnection S (some conn))])

/-- `HCI_EVENT_LINK_KEY_REQUEST`; `hci_run` answers it. -/
def linkKeyRequest (S : HciStack) (conn : HciConnection) : HciConnection :=
  if S.bondable ∧ S.linkKeyDb = false then conn else { conn with handleLinkKeyRequest := true }

/-- `HCI_EVENT_LINK_KEY_NOTIFICATION`. -/
def linkKeyNotification (S : HciStack) (conn : HciConnection) (linkKeyType : UInt8) :
    HciConnection × List HciOut :=
  let conn := if linkKeyType ≠ changedCombinationKey then { conn with linkKeyType := linkKeyType } else conn
  (conn, if S.linkKeyDb then [.putLinkKey conn.linkKeyType] else [])

/-- `hci_handle_remote_features_received`. -/
def remoteFeaturesReceived (conn : HciConnection) : HciConnection :=
  if conn.dedicated then { conn with sendAuthenticateRequest := true } else conn

/-- `HCI_EVENT_READ_REMOTE_SUPPORTED_FEATURES_COMPLETE`: with extended features on both sides, page 1 is read
    before. -/
def remoteSupportedFeatures (S : HciStack) (conn : HciConnection) (status feature7 : UInt8) : HciConnection :=
  if status = 0 then
    let conn := { conn with remoteExtendedFeatures := conn.remoteExtendedFeatures || feature7 &&& 0x80 != 0 }
    if S.readRemoteExtendedFeatures ∧ conn.remoteExtendedFeatures then conn else remoteFeaturesReceived conn
  else remoteFeaturesReceived conn

/-- `HCI_EVENT_READ_REMOTE_EXTENDED_FEATURES_COMPLETE`. -/
def remoteExtendedFeatures (conn : HciConnection) (status page maximumPage feature0 feature1 : UInt8) :
    HciConnection :=
  if status = 0 then
    if page = 1 then
      let conn := { conn with remoteSupportsScHost := conn.remoteSupportsScHost || feature0 &&& 0x08 != 0 }
      if 2 ≤ maximumPage then conn
      else
        remoteFeaturesReceived { conn with
          remoteSupportsScController := conn.remoteSupportsScController || conn.remoteSupportsScHost }
    else if page = 2 then
      remoteFeaturesReceived { conn with
        remoteSupportsScController := conn.remoteSupportsScController || feature1 &&& 0x01 != 0 }
    else conn
  else remoteFeaturesReceived conn

/-- `gap_request_security_level`. -/
def gapRequestSecurityLevel (S : HciStack) (conn : HciConnection) (level : GapSecurityLevel) :
    HciConnection × List HciOut :=
  let current := gapSecurityLevelForConnection S (some conn)
  if current.toNat < conn.requestedSecurityLevel.toNat then
    if conn.requestedSecurityLevel.toNat < level.toNat then ({ conn with requestedSecurityLevel := level }, [])
    else (conn, [])
  else if level.toNat ≤ current.toNat then (conn, [.securityLevel current])
  else
    let conn := { conn with requestedSecurityLevel := level }
    if conn.sentAuthenticateRequest then (conn, []) else ({ conn with sendAuthenticateRequest := true }, [])

/-- `ERROR_CODE_AUTHENTICATION_FAILURE`. -/
def errorCodeAuthenticationFailure : UInt8 := 0x05

/-- `ERROR_CODE_REMOTE_USER_TERMINATED_CONNECTION`. -/
def errorCodeRemoteUserTerminatedConnection : UInt8 := 0x13

/-- The answer of `hci_run` to a link key request. -/
def replyLinkKey (conn : HciConnection) : Option UInt8 → HciConnection × List HciOut
  | none => (conn, [.command .linkKeyRequestNegativeReply])
  | some linkKeyType =>
      if gapSecureConnectionForLinkKeyType linkKeyType ∧
          ¬ (conn.remoteSupportsScHost ∧ conn.remoteSupportsScController) then
        ({ conn with state := .sentDisconnect }, [.command (.disconnect errorCodeAuthenticationFailure)])
      else if conn.requestedSecurityLevel.toNat ≤ (gapSecurityLevelForLinkKeyType linkKeyType).toNat then
        ({ conn with linkKeyType := linkKeyType }, [.command (.linkKeyRequestReply linkKeyType)])
      else (conn, [.command .linkKeyRequestNegativeReply])

/-- The errands of `hci_run_general_pending_commands` that concern the level, one a call. -/
def hciRun (S : HciStack) (conn : HciConnection) (linkKey : Option UInt8) : HciConnection × List HciOut :=
  if conn.state = .sentDisconnect then (conn, [])
  else if conn.handleLinkKeyRequest then
    replyLinkKey { conn with handleLinkKeyRequest := false } (if S.linkKeyDb then linkKey else none)
  else if conn.disconnectDedicatedDone then
    ({ conn with disconnectDedicatedDone := false, emitCompleteOnDisconnect := true, state := .sentDisconnect },
      [.command (.disconnect errorCodeRemoteUserTerminatedConnection)])
  else if conn.sendAuthenticateRequest then
    ({ conn with sendAuthenticateRequest := false, sentAuthenticateRequest := true },
      [.command .authenticationRequested])
  else if conn.sendEncryptionRequest then
    ({ conn with sendEncryptionRequest := false }, [.command .setConnectionEncryption])
  else if conn.sendReadEncryptionKeySize then
    ({ conn with sendReadEncryptionKeySize := false }, [.command .readEncryptionKeySize])
  else if conn.disconnectSecurityBlock then
    ({ conn with disconnectSecurityBlock := false, state := .sentDisconnect },
      [.command (.disconnect errorCodeAuthenticationFailure)])
  else (conn, [])

/-- An input and the record of its link. -/
def connectionInput (S : HciStack) (conn : HciConnection) : HciInput → HciConnection × List HciOut
  | .encryptionChange status encryptionEnabled => encryptionChange S conn status encryptionEnabled
  | .readEncryptionKeySizeComplete status keySize =>
      -- a failed read counts as a key of no bytes
      hciHandleReadEncryptionKeySizeComplete S conn (if status = 0 then keySize else 0)
  | .authenticationComplete status => authenticationComplete S conn status
  | .linkKeyRequest => (linkKeyRequest S conn, [])
  | .linkKeyNotification linkKeyType => linkKeyNotification S conn linkKeyType
  | .remoteSupportedFeatures status feature7 => (remoteSupportedFeatures S conn status feature7, [])
  | .remoteExtendedFeatures status page maximumPage feature0 feature1 =>
      (remoteExtendedFeatures conn status page maximumPage feature0 feature1, [])
  | .gapRequestSecurityLevel level => gapRequestSecurityLevel S conn level
  | .hciRun linkKey => hciRun S conn linkKey
  | .disconnectionComplete _ => (conn, [])

/-- The handlers look the record up; it is freed with the Disconnection Complete. -/
def hciInput (S : HciStack) : Option HciConnection → HciInput → Option HciConnection × List HciOut
  | none, .gapRequestSecurityLevel _ => (none, [.securityLevel .level0])
  | none, _ => (none, [])
  | some conn, .disconnectionComplete status =>
      if status = 0 then
        (none, if conn.emitCompleteOnDisconnect then [.dedicatedBondingResult conn.bondingStatus] else [])
      else (some conn, [])
  | some conn, i =>
      let r := connectionInput S conn i
      (some r.1, r.2)

/-- A step of a link. -/
def LinkStep (S : HciStack) (link : Option HciConnection) (i : HciInput) (link' : Option HciConnection) : Prop :=
  link' = (hciInput S link i).1

/-- A run of a link, from its Connection Complete on. -/
abbrev LinkRun (S : HciStack) (dedicatedMitm : Option Bool) :=
  Run (LinkStep S) (some (connectionOpened dedicatedMitm))

/-! ## What a level rests on

The flags that the level is computed from were set by earlier events. `Reported` ties them to the mode of the last
successful Encryption Change, and an event is orderly when it does not change one of the two against the other. -/

/-- The mode of a successful Encryption Change: 0 is off, 1 is E0, 2 is AES-CCM. -/
def changeMode : HciInput → Option UInt8
  | .encryptionChange status encryptionEnabled => if status = 0 then some encryptionEnabled else none
  | _ => none

/-- The mode of the last successful Encryption Change of a run. -/
def lastMode (h : List (Step (Option HciConnection) HciInput)) : Option UInt8 :=
  h.foldl (fun m x => (changeMode x.input).or m) none

/-- The mode enables encryption, with AES-CCM for a Secure Connections key. -/
def ModeFits (m : Option UInt8) (linkKeyType : UInt8) : Prop :=
  ∃ mode, m = some mode ∧ mode ≠ 0 ∧ (gapSecureConnectionForLinkKeyType linkKeyType = true → mode = 2)

/-- **A level above `LEVEL_0`** is only reported when the last successful Encryption Change fits the link key. -/
def Reported (S : HciStack) (m : Option UInt8) (link : Option HciConnection) : Prop :=
  0 < (gapSecurityLevelForConnection S link).toNat → ∃ conn, link = some conn ∧ ModeFits m conn.linkKeyType

/-- Both flags are set, and the size of the encryption key is sufficient. -/
structure Counted (S : HciStack) (conn : HciConnection) : Prop where
  encrypted : conn.connectionEncrypted = true
  authenticated : conn.connectionAuthenticated = true
  size : S.gapRequiredEncyrptionKeySize ≤ conn.encryptionKeySize

/-- `hci_run` replies to a link key request with this key. -/
structure RepliesWith (S : HciStack) (conn : HciConnection) (linkKey : Option UInt8) (linkKeyType : UInt8) :
    Prop where
  state : conn.state ≠ .sentDisconnect
  request : conn.handleLinkKeyRequest = true
  db : S.linkKeyDb = true
  key : linkKey = some linkKeyType
  remote : gapSecureConnectionForLinkKeyType linkKeyType = true →
    conn.remoteSupportsScHost = true ∧ conn.remoteSupportsScController = true
  sufficient : conn.requestedSecurityLevel.toNat ≤ (gapSecurityLevelForLinkKeyType linkKeyType).toNat

/-- What the flags of a link survive. An E0 downgrade finds it not counted; a key size that is sufficient comes to
    an authenticated link, and a requested authentication to an encrypted one, while the last Encryption Change fits;
    a Secure Connections key comes to a counted link under AES-CCM. -/
def OrderlyAt (S : HciStack) (m : Option UInt8) (conn : HciConnection) : HciInput → Prop
  | .encryptionChange status encryptionEnabled =>
      status = 0 → encryptionEnabled ≠ 0 → encryptionEnabled ≠ 2 →
        gapSecureConnectionForLinkKeyType conn.linkKeyType = true → ¬ Counted S conn
  | .readEncryptionKeySizeComplete status keySize =>
      status = 0 → S.gapRequiredEncyrptionKeySize ≤ keySize → conn.connectionAuthenticated = true →
        ModeFits m conn.linkKeyType
  | .authenticationComplete status =>
      status = 0 → conn.sentAuthenticateRequest = true → conn.dedicated = false →
        conn.connectionEncrypted = true → S.gapRequiredEncyrptionKeySize ≤ conn.encryptionKeySize →
          ModeFits m conn.linkKeyType
  | .linkKeyNotification linkKeyType =>
      gapSecureConnectionForLinkKeyType linkKeyType = true → Counted S conn → m = some 2
  | .hciRun linkKey =>
      ∀ linkKeyType, RepliesWith S conn linkKey linkKeyType →
        gapSecureConnectionForLinkKeyType linkKeyType = true → Counted S conn → m = some 2
  | _ => True

/-- The order of the events on a link that may be gone. -/
def Orderly (S : HciStack) (m : Option UInt8) (link : Option HciConnection) (i : HciInput) : Prop :=
  ∀ conn, link = some conn → OrderlyAt S m conn i

/-! ## The level of a record -/

section Level

variable {S : HciStack} {conn conn' : HciConnection} {m : Option UInt8}

theorem gapSecurityLevelForLinkKeyType_pos (linkKeyType : UInt8) :
    0 < (gapSecurityLevelForLinkKeyType linkKeyType).toNat := by
  unfold gapSecurityLevelForLinkKeyType
  split
  · decide
  split
  · decide
  · decide

/-- The level is above `LEVEL_0` exactly for a counted link. -/
theorem level_pos_iff : 0 < (gapSecurityLevelForConnection S (some conn)).toNat ↔ Counted S conn := by
  rw [gapSecurityLevelForConnection]
  by_cases henc : conn.connectionEncrypted = false
  · rw [if_pos henc]
    exact iff_of_false (by decide) fun h => by simp [h.encrypted] at henc
  by_cases hauth : conn.connectionAuthenticated = false
  · rw [if_neg henc, if_pos hauth]
    exact iff_of_false (by decide) fun h => by simp [h.authenticated] at hauth
  by_cases hsize : conn.encryptionKeySize < S.gapRequiredEncyrptionKeySize
  · rw [if_neg henc, if_neg hauth, if_pos hsize]
    exact iff_of_false (by decide) fun h => absurd h.size (UInt8.not_le.mpr hsize)
  rw [if_neg henc, if_neg hauth, if_neg hsize]
  refine iff_of_true ?_ ⟨by simpa using henc, by simpa using hauth, UInt8.not_lt.mp hsize⟩
  dsimp only
  split
  · decide
  · exact gapSecurityLevelForLinkKeyType_pos _

theorem reported_some : Reported S m (some conn) ↔ (Counted S conn → ModeFits m conn.linkKeyType) := by
  rw [Reported, level_pos_iff]
  constructor
  · intro h hc
    obtain ⟨_, heq, hfits⟩ := h hc
    obtain rfl := Option.some.inj heq
    exact hfits
  · intro h hc
    exact ⟨conn, rfl, h hc⟩

theorem reported_none : Reported S m none := fun h => absurd h (Nat.lt_irrefl 0)

/-- What the level is computed from is the same. -/
structure SameLevel (conn conn' : HciConnection) : Prop where
  encrypted : conn'.connectionEncrypted = conn.connectionEncrypted
  authenticated : conn'.connectionAuthenticated = conn.connectionAuthenticated
  size : conn'.encryptionKeySize = conn.encryptionKeySize
  linkKeyType : conn'.linkKeyType = conn.linkKeyType

theorem Counted.congr (henc : conn'.connectionEncrypted = conn.connectionEncrypted)
    (hauth : conn'.connectionAuthenticated = conn.connectionAuthenticated)
    (hsize : conn'.encryptionKeySize = conn.encryptionKeySize) : Counted S conn' ↔ Counted S conn := by
  constructor
  · intro h
    exact ⟨henc ▸ h.encrypted, hauth ▸ h.authenticated, hsize ▸ h.size⟩
  · intro h
    exact ⟨henc ▸ h.encrypted, hauth ▸ h.authenticated, hsize ▸ h.size⟩

theorem SameLevel.reported (hs : SameLevel conn conn') :
    Reported S m (some conn') ↔ Reported S m (some conn) := by
  rw [reported_some, reported_some, Counted.congr hs.encrypted hs.authenticated hs.size, hs.linkKeyType]

/-- A new key for a link whose level is justified. -/
theorem reported_key (hr : Reported S m (some conn))
    (hc : Counted S conn' ↔ Counted S conn) :
    Reported S m (some conn') ↔
      (gapSecureConnectionForLinkKeyType conn'.linkKeyType = true → Counted S conn → m = some 2) := by
  rw [reported_some, hc]
  constructor
  · intro h hsc hcounted
    obtain ⟨mode, rfl, _, hccm⟩ := h hcounted
    rw [hccm hsc]
  · intro h hcounted
    obtain ⟨mode, rfl, hon, _⟩ := reported_some.mp hr hcounted
    exact ⟨mode, rfl, hon, fun hsc => Option.some.inj (h hsc hcounted)⟩

end Level

/-! ## The handlers -/

section Handlers

variable {S : HciStack} {conn : HciConnection} {m : Option UInt8}

theorem linkKeyRequest_same (S : HciStack) (conn : HciConnection) : SameLevel conn (linkKeyRequest S conn) := by
  unfold linkKeyRequest
  split
  · exact ⟨rfl, rfl, rfl, rfl⟩
  · exact ⟨rfl, rfl, rfl, rfl⟩

theorem remoteFeaturesReceived_same {conn conn' : HciConnection} (h : SameLevel conn conn') :
    SameLevel conn (remoteFeaturesReceived conn') := by
  unfold remoteFeaturesReceived
  split
  · exact ⟨h.encrypted, h.authenticated, h.size, h.linkKeyType⟩
  · exact h

theorem remoteSupportedFeatures_same (S : HciStack) (conn : HciConnection) (status feature7 : UInt8) :
    SameLevel conn (remoteSupportedFeatures S conn status feature7) := by
  unfold remoteSupportedFeatures
  split
  · dsimp only
    split
    · exact ⟨rfl, rfl, rfl, rfl⟩
    · exact remoteFeaturesReceived_same ⟨rfl, rfl, rfl, rfl⟩
  · exact remoteFeaturesReceived_same ⟨rfl, rfl, rfl, rfl⟩

theorem remoteExtendedFeatures_same (conn : HciConnection) (status page maximumPage feature0 feature1 : UInt8) :
    SameLevel conn (remoteExtendedFeatures conn status page maximumPage feature0 feature1) := by
  unfold remoteExtendedFeatures
  split
  · split
    · dsimp only
      split
      · exact ⟨rfl, rfl, rfl, rfl⟩
      · exact remoteFeaturesReceived_same ⟨rfl, rfl, rfl, rfl⟩
    split
    · exact remoteFeaturesReceived_same ⟨rfl, rfl, rfl, rfl⟩
    · exact ⟨rfl, rfl, rfl, rfl⟩
  · exact remoteFeaturesReceived_same ⟨rfl, rfl, rfl, rfl⟩

theorem gapRequestSecurityLevel_same (S : HciStack) (conn : HciConnection) (level : GapSecurityLevel) :
    SameLevel conn (gapRequestSecurityLevel S conn level).1 := by
  unfold gapRequestSecurityLevel
  dsimp only
  split
  · split
    · exact ⟨rfl, rfl, rfl, rfl⟩
    · exact ⟨rfl, rfl, rfl, rfl⟩
  split
  · exact ⟨rfl, rfl, rfl, rfl⟩
  split
  · exact ⟨rfl, rfl, rfl, rfl⟩
  · exact ⟨rfl, rfl, rfl, rfl⟩

/-- A pass of `hci_run` leaves the level alone, or replies with a key. -/
theorem hciRun_cases (S : HciStack) (conn : HciConnection) (linkKey : Option UInt8) :
    (SameLevel conn (hciRun S conn linkKey).1 ∧ ∀ t, ¬ RepliesWith S conn linkKey t) ∨
    ∃ t, RepliesWith S conn linkKey t ∧
      (hciRun S conn linkKey).1 = { conn with handleLinkKeyRequest := false, linkKeyType := t } := by
  unfold hciRun
  by_cases hstate : conn.state = .sentDisconnect
  · rw [if_pos hstate]
    exact .inl ⟨⟨rfl, rfl, rfl, rfl⟩, fun t ht => ht.state hstate⟩
  rw [if_neg hstate]
  by_cases hreq : conn.handleLinkKeyRequest = true
  · rw [if_pos hreq]
    cases hkey : (if S.linkKeyDb then linkKey else none) with
    | none =>
        refine .inl ⟨⟨rfl, rfl, rfl, rfl⟩, fun t ht => ?_⟩
        rw [if_pos ht.db, ht.key] at hkey
        cases hkey
    | some t =>
        have hdb : S.linkKeyDb = true ∧ linkKey = some t := by
          split at hkey
          · exact ⟨by assumption, hkey⟩
          · cases hkey
        have hsame : ∀ t', RepliesWith S conn linkKey t' → t' = t := fun t' ht' =>
          Option.some.inj (ht'.key.symm.trans hdb.2)
        rw [replyLinkKey]
        dsimp only
        split
        · rename_i hdown
          refine .inl ⟨⟨rfl, rfl, rfl, rfl⟩, fun t' ht' => ?_⟩
          obtain rfl := hsame t' ht'
          exact hdown.2 (ht'.remote hdown.1)
        rename_i hdown
        split
        · rename_i hlevel
          refine .inr ⟨t, ⟨hstate, hreq, hdb.1, hdb.2, fun hsc => ?_, hlevel⟩, rfl⟩
          exact Decidable.not_not.mp fun hno => hdown ⟨hsc, hno⟩
        · rename_i hlevel
          refine .inl ⟨⟨rfl, rfl, rfl, rfl⟩, fun t' ht' => ?_⟩
          obtain rfl := hsame t' ht'
          exact hlevel ht'.sufficient
  · rw [if_neg hreq]
    refine .inl ⟨?_, fun t ht => hreq ht.request⟩
    repeat' split
    all_goals exact ⟨rfl, rfl, rfl, rfl⟩

/-- The reply with the key size decides about an authenticated link. -/
theorem readKeySize_counted (S : HciStack) (conn : HciConnection) (keySize : UInt8) :
    Counted S (hciHandleReadEncryptionKeySizeComplete S conn keySize).1 ↔
      conn.connectionAuthenticated = true ∧ S.gapRequiredEncyrptionKeySize ≤ keySize := by
  unfold hciHandleReadEncryptionKeySizeComplete
  dsimp only
  split
  · rename_i hauth
    exact ⟨fun h => ⟨hauth, h.size⟩, fun h => ⟨rfl, hauth, h.2⟩⟩
  rename_i hauth
  split
  · exact iff_of_false (fun h => hauth h.authenticated) fun h => hauth h.1
  · exact iff_of_false (fun h => hauth h.authenticated) fun h => hauth h.1

theorem readKeySize_linkKeyType (S : HciStack) (conn : HciConnection) (keySize : UInt8) :
    (hciHandleReadEncryptionKeySizeComplete S conn keySize).1.linkKeyType = conn.linkKeyType := by
  unfold hciHandleReadEncryptionKeySizeComplete
  dsimp only
  split
  · rfl
  split
  · rfl
  · rfl

/-- A failed read is never sufficient. -/
theorem readKeySize_sufficient (S : HciStack) (status keySize : UInt8) :
    S.gapRequiredEncyrptionKeySize ≤ (if status = 0 then keySize else 0) ↔
      status = 0 ∧ S.gapRequiredEncyrptionKeySize ≤ keySize := by
  by_cases hstatus : status = 0
  · rw [if_pos hstatus]
    exact ⟨fun h => ⟨hstatus, h⟩, fun h => h.2⟩
  · rw [if_neg hstatus]
    refine iff_of_false (fun h => ?_) fun h => hstatus h.1
    exact absurd (UInt8.le_trans S.range.1 h) (by decide)

theorem encryptionChange_reported (hr : Reported S m (some conn)) (status encryptionEnabled : UInt8) :
    Reported S ((changeMode (.encryptionChange status encryptionEnabled)).or m)
        (some (encryptionChange S conn status encryptionEnabled).1) ↔
      OrderlyAt S m conn (.encryptionChange status encryptionEnabled) := by
  unfold encryptionChange
  simp only [changeMode, OrderlyAt]
  by_cases hstatus : status = 0
  swap
  · rw [if_neg hstatus, if_neg hstatus]
    exact iff_of_true hr fun h => absurd h hstatus
  rw [if_pos hstatus, if_pos hstatus, Option.some_or, reported_some]
  by_cases hon : encryptionEnabled ≠ 0
  swap
  · rw [if_neg hon]
    exact iff_of_true (fun h => absurd h.encrypted Bool.false_ne_true) fun _ h => absurd h hon
  rw [if_pos hon]
  by_cases hdown : gapSecureConnectionForLinkKeyType conn.linkKeyType ∧ encryptionEnabled ≠ 2
  · -- the flags stay as they were, under E0
    rw [if_pos hdown]
    have hmisfit : ¬ ModeFits (some encryptionEnabled) conn.linkKeyType := by
      rintro ⟨mode, hmode, _, hccm⟩
      exact hdown.2 ((Option.some.inj hmode).trans (hccm hdown.1))
    have hsame : Counted S { conn with disconnectSecurityBlock := true } ↔ Counted S conn :=
      Counted.congr rfl rfl rfl
    rw [hsame]
    constructor
    · intro h _ _ _ _ hcounted
      exact hmisfit (h hcounted)
    · intro h hcounted
      exact absurd hcounted (h hstatus hon hdown.2 hdown.1)
  · rw [if_neg hdown]
    have hccm : gapSecureConnectionForLinkKeyType conn.linkKeyType = true → encryptionEnabled = 2 := by
      intro hsc
      exact Decidable.not_not.mp fun hne => hdown ⟨hsc, hne⟩
    refine iff_of_true (fun _ => ⟨encryptionEnabled, rfl, hon, ?_⟩) fun _ _ hne hsc => absurd (hccm hsc) hne
    split
    · exact hccm
    · rw [readKeySize_linkKeyType]
      exact hccm

theorem readKeySize_reported (status keySize : UInt8) :
    Reported S m (some (hciHandleReadEncryptionKeySizeComplete S conn (if status = 0 then keySize else 0)).1) ↔
      OrderlyAt S m conn (.readEncryptionKeySizeComplete status keySize) := by
  rw [reported_some, readKeySize_counted, readKeySize_sufficient, readKeySize_linkKeyType]
  constructor
  · intro h hstatus hsize hauth
    exact h ⟨hauth, hstatus, hsize⟩
  · rintro h ⟨hauth, hstatus, hsize⟩
    exact h hstatus hsize hauth

theorem authenticationComplete_reported (hr : Reported S m (some conn)) (status : UInt8) :
    Reported S m (some (authenticationComplete S conn status).1) ↔
      OrderlyAt S m conn (.authenticationComplete status) := by
  unfold authenticationComplete
  simp only [OrderlyAt]
  by_cases hsent : conn.sentAuthenticateRequest = false
  · rw [if_pos hsent]
    exact iff_of_true hr fun _ h => by simp [hsent] at h
  rw [if_neg hsent]
  by_cases hded : conn.dedicated = true
  · rw [if_pos hded]
    have hsame : SameLevel conn { conn with
        dedicated := false, disconnectDedicatedDone := true, bondingStatus := status } := ⟨rfl, rfl, rfl, rfl⟩
    exact iff_of_true (hsame.reported.mpr hr) fun _ _ h => by simp [hded] at h
  rw [if_neg hded]
  by_cases hstatus : status = 0
  swap
  · rw [if_neg hstatus]
    exact iff_of_true hr fun h => absurd h hstatus
  rw [if_pos hstatus]
  have hiff : Reported S m (some { conn with connectionAuthenticated := true }) ↔
      (conn.connectionEncrypted = true → S.gapRequiredEncyrptionKeySize ≤ conn.encryptionKeySize →
        ModeFits m conn.linkKeyType) := by
    rw [reported_some]
    exact ⟨fun h henc hsize => h ⟨henc, rfl, hsize⟩, fun h hc => h hc.encrypted hc.size⟩
  have horderly : (status = 0 → conn.sentAuthenticateRequest = true → conn.dedicated = false →
      conn.connectionEncrypted = true → S.gapRequiredEncyrptionKeySize ≤ conn.encryptionKeySize →
        ModeFits m conn.linkKeyType) ↔ Reported S m (some { conn with connectionAuthenticated := true }) := by
    rw [hiff]
    exact ⟨fun h => h hstatus (by simpa using hsent) (by simpa using hded), fun h _ _ _ => h⟩
  rw [horderly]
  split
  · have hsame : SameLevel { conn with connectionAuthenticated := true }
        { conn with connectionAuthenticated := true, sendEncryptionRequest := true } := ⟨rfl, rfl, rfl, rfl⟩
    exact hsame.reported
  · exact Iff.rfl

theorem linkKeyNotification_reported (hr : Reported S m (some conn)) (linkKeyType : UInt8) :
    Reported S m (some (linkKeyNotification S conn linkKeyType).1) ↔
      OrderlyAt S m conn (.linkKeyNotification linkKeyType) := by
  unfold linkKeyNotification
  simp only [OrderlyAt]
  split
  · exact reported_key hr (Counted.congr rfl rfl rfl)
  · rename_i hchanged
    obtain rfl := Decidable.not_not.mp hchanged
    exact iff_of_true hr fun h => absurd h (by decide)

theorem hciRun_reported (hr : Reported S m (some conn)) (linkKey : Option UInt8) :
    Reported S m (some (hciRun S conn linkKey).1) ↔ OrderlyAt S m conn (.hciRun linkKey) := by
  simp only [OrderlyAt]
  rcases hciRun_cases S conn linkKey with ⟨hsame, hno⟩ | ⟨t, ht, heq⟩
  · exact iff_of_true (hsame.reported.mpr hr) fun t ht => absurd ht (hno t)
  · have hc : Counted S { conn with handleLinkKeyRequest := false, linkKeyType := t } ↔ Counted S conn :=
      Counted.congr rfl rfl rfl
    rw [heq, reported_key hr hc]
    constructor
    · intro h t' ht'
      obtain rfl := Option.some.inj (ht'.key.symm.trans ht.key)
      exact h
    · intro h
      exact h t ht

end Handlers

/-! ## Steps and runs

Every step is either orderly and keeps `Reported`, or is not and breaks it. So over a run it holds throughout exactly
when each step is orderly (`Run.along_iff`). -/

section Runs

variable {S : HciStack} {m : Option UInt8} {conn : HciConnection} {link link' : Option HciConnection} {i : HciInput}

theorem connectionInput_reported (hr : Reported S m (some conn)) :
    Reported S ((changeMode i).or m) (some (connectionInput S conn i).1) ↔ OrderlyAt S m conn i := by
  cases i with
  | encryptionChange status encryptionEnabled => exact encryptionChange_reported hr status encryptionEnabled
  | readEncryptionKeySizeComplete status keySize => exact readKeySize_reported status keySize
  | authenticationComplete status => exact authenticationComplete_reported hr status
  | linkKeyRequest => exact iff_of_true ((linkKeyRequest_same S conn).reported.mpr hr) trivial
  | linkKeyNotification linkKeyType => exact linkKeyNotification_reported hr linkKeyType
  | remoteSupportedFeatures status feature7 =>
      exact iff_of_true ((remoteSupportedFeatures_same S conn status feature7).reported.mpr hr) trivial
  | remoteExtendedFeatures status page maximumPage feature0 feature1 =>
      have hsame := remoteExtendedFeatures_same conn status page maximumPage feature0 feature1
      exact iff_of_true (hsame.reported.mpr hr) trivial
  | gapRequestSecurityLevel level =>
      exact iff_of_true ((gapRequestSecurityLevel_same S conn level).reported.mpr hr) trivial
  | hciRun linkKey => exact hciRun_reported hr linkKey
  | disconnectionComplete status => exact iff_of_true hr trivial

/-- **One step** keeps the level justified exactly when it is orderly. -/
theorem reported_iff (hr : Reported S m link) (hstep : LinkStep S link i link') :
    Reported S ((changeMode i).or m) link' ↔ Orderly S m link i := by
  subst hstep
  cases link with
  | none =>
      have hnone : (hciInput S none i).1 = none := by cases i <;> rfl
      rw [hnone]
      exact iff_of_true reported_none fun _ h => nomatch h
  | some conn =>
      have horderly : Orderly S m (some conn) i ↔ OrderlyAt S m conn i :=
        ⟨fun h => h conn rfl, fun h conn' heq => Option.some.inj heq ▸ h⟩
      rw [horderly]
      by_cases hgone : (hciInput S (some conn) i).1 = none
      · rw [hgone]
        refine iff_of_true reported_none ?_
        cases i with
        | disconnectionComplete status => trivial
        | _ => exact nomatch hgone
      · have hconn : (hciInput S (some conn) i).1 = some (connectionInput S conn i).1 := by
          cases i with
          | disconnectionComplete status =>
              rw [hciInput] at hgone ⊢
              split at hgone
              · exact absurd rfl hgone
              · rename_i hstatus
                rw [if_neg hstatus]
                rfl
          | _ => rfl
        rw [hconn]
        exact connectionInput_reported hr

theorem lastMode_snoc (h : List (Step (Option HciConnection) HciInput)) (x : Step (Option HciConnection) HciInput) :
    lastMode (h ++ [x]) = (changeMode x.input).or (lastMode h) := by
  rw [lastMode, List.foldl_append]
  rfl

theorem reported_opened (S : HciStack) (dedicatedMitm : Option Bool) :
    Reported S none (some (connectionOpened dedicatedMitm)) := by
  rw [reported_some]
  exact fun h => absurd h.encrypted Bool.false_ne_true

end Runs

/-- **The security level of a link.** In every run, the level is above `LEVEL_0` only when the last successful
    Encryption Change fits the link key, in every state reached, exactly when all steps are orderly. -/
theorem securityLevel_iff {S : HciStack} {dedicatedMitm : Option Bool}
    {h : List (Step (Option HciConnection) HciInput)} {link : Option HciConnection}
    (hr : LinkRun S dedicatedMitm h link) :
    Along (fun pre x => Reported S (lastMode (pre ++ [x])) x.post) h ↔
      Along (fun pre x => Orderly S (lastMode pre) x.pre x.input) h := by
  refine hr.along_iff (fun h link => Reported S (lastMode h) link)
    (fun pre x => Orderly S (lastMode pre) x.pre x.input) (reported_opened S dedicatedMitm) ?_
  intro h s i s' hinv hstep
  rw [lastMode_snoc]
  exact reported_iff hinv hstep

/-- A controller with `HCI_Read_Encryption_Key_Size`, and the defaults of the stack. -/
def defaultStack : HciStack :=
  { readEncryptionKeySize := true, readRemoteExtendedFeatures := true, bondable := true, linkKeyDb := true,
    gapRequiredEncyrptionKeySize := 7, range := by decide }

/-- The step of an input, behind a run. -/
theorem LinkRun.input {S : HciStack} {dedicatedMitm : Option Bool} {h : List (Step (Option HciConnection) HciInput)}
    {link : Option HciConnection} (hr : LinkRun S dedicatedMitm h link) (i : HciInput) :
    LinkRun S dedicatedMitm (h ++ [⟨link, i, (hciInput S link i).1⟩]) (hciInput S link i).1 :=
  hr.snoc rfl

/-- The pairing makes a Secure Connections key, and its link is encrypted with AES-CCM. -/
theorem securityLevel_iff_secured :
    ∃ h link, LinkRun defaultStack none h link ∧ gapSecurityLevelForConnection defaultStack link = .level4 ∧
      Along (fun pre x => Reported defaultStack (lastMode (pre ++ [x])) x.post) h := by
  have hkey := LinkRun.input (.nil : LinkRun defaultStack none [] _)
    (.linkKeyNotification authenticatedCombinationKeyGeneratedFromP256)
  have hsize := ((hkey.input (.encryptionChange 0 2)).input (.hciRun none)).input (.readEncryptionKeySizeComplete 0 16)
  refine ⟨_, _, hsize, by decide, (securityLevel_iff hsize).mpr ?_⟩
  refine along_snoc.mpr ⟨along_snoc.mpr ⟨along_snoc.mpr ⟨along_snoc.mpr ⟨Along.nil, ?_⟩, ?_⟩, ?_⟩, ?_⟩
  · rintro conn hconn _ hcounted
    obtain rfl := Option.some.inj hconn
    exact absurd hcounted.encrypted Bool.false_ne_true
  · intro conn _ _ _ hccm
    exact absurd rfl hccm
  · rintro conn hconn t ht
    obtain rfl := Option.some.inj hconn
    exact absurd ht.request Bool.false_ne_true
  · rintro conn hconn _ _ _
    obtain rfl := Option.some.inj hconn
    exact ⟨2, rfl, by decide, fun _ => rfl⟩

/-- An E0 downgrade of that link: the level stays 4 until the link is disconnected. -/
theorem not_securityLevel :
    ¬ ∀ (S : HciStack) (dedicatedMitm : Option Bool) (h : List (Step (Option HciConnection) HciInput))
        (link : Option HciConnection), LinkRun S dedicatedMitm h link →
        Along (fun pre x => Reported S (lastMode (pre ++ [x])) x.post) h := by
  intro hclaim
  have hkey := LinkRun.input (.nil : LinkRun defaultStack none [] _)
    (.linkKeyNotification authenticatedCombinationKeyGeneratedFromP256)
  have hsize := ((hkey.input (.encryptionChange 0 2)).input (.hciRun none)).input (.readEncryptionKeySizeComplete 0 16)
  have hreported := (along_snoc.mp (hclaim _ _ _ _ (hsize.input (.encryptionChange 0 1)))).2
  obtain ⟨conn, hconn, mode, hmode, _, hccm⟩ := hreported (by decide)
  obtain rfl := Option.some.inj hconn
  obtain rfl := Option.some.inj hmode
  exact absurd (hccm rfl) (by decide)

end Showcase.Btstack
