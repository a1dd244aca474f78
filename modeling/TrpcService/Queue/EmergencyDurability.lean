import TrpcService.Queue.EmergencyProtocol

namespace TrpcService.Queue.Emergency

open Data Storage EmergencyQueue EmergencyWorld

variable {Plain : Type}

/-! Drainers that have every key lose no callback, and replay nothing that was
not enqueued. -/

/-- The row holds the encryption of a prepared callback under one of these
keys, for exactly its binding. -/
def Produced (formats : EmergencyFormats Plain) (vault : EmergencyVault Plain) (keys : List Bytes)
    (row : StreamRow) (prepared : PreparedInbound) : Prop :=
  row.fields.lookup "binding_id" = some prepared.context.channelBindingId ∧
    ∃ key ∈ keys, ∃ nonce cipher plain,
      (row.fields.lookup "nonce").bind formats.b64decode = some nonce ∧
      (row.fields.lookup "payload").bind formats.b64decode = some cipher ∧
      formats.modelValidateJson plain = some prepared ∧
      ⟨key, nonce, prepared.context.channelBindingId, plain, cipher⟩ ∈ vault

variable {formats : EmergencyFormats Plain} {queue : EmergencyQueue}
  {vault later : EmergencyVault Plain} {row : StreamRow} {message : EmergencyMessage}

theorem field_eq_ok {fields : List (String × String)} {name value : String}
    (found : field fields name = .ok value) : fields.lookup name = some value := by
  unfold field at found
  split at found
  case h_1 there =>
    cases found
    exact there
  case h_2 => exact nomatch found

theorem b64decode_eq_ok {text : String} {bytes : Bytes}
    (decoded : b64decode formats text = .ok bytes) : formats.b64decode text = some bytes := by
  unfold b64decode at decoded
  split at decoded
  case h_1 there =>
    cases decoded
    exact there
  case h_2 => exact nomatch decoded

theorem decode_eq_ok (decoded : queue.decode formats vault row = .ok message) :
    message.messageId = row.messageId ∧
      Produced formats vault queue.keys.values row message.prepared := by
  obtain ⟨bindingId, binding, decoded⟩ := bind_eq_ok decoded
  obtain ⟨nonce, nonceField, decoded⟩ := bind_eq_ok decoded
  obtain ⟨payload, payloadField, decoded⟩ := bind_eq_ok decoded
  obtain ⟨prepared, decrypted, same⟩ := bind_eq_ok decoded
  cases same
  obtain ⟨rawNonce, nonceDecoded, decrypted⟩ := bind_eq_ok decrypted
  obtain ⟨rawPayload, payloadDecoded, decrypted⟩ := bind_eq_ok decrypted
  split at decrypted
  case h_1 => exact nomatch decrypted
  case h_2 plain opened =>
    split at decrypted
    case h_1 => exact nomatch decrypted
    case h_2 valid =>
      split at decrypted
      case isTrue => exact nomatch decrypted
      case isFalse bound =>
        cases decrypted
        obtain rfl := Decidable.not_not.mp bound
        obtain ⟨key, among, sealed⟩ := Vault.decryptAny_eq_some opened
        refine ⟨rfl, field_eq_ok binding, key, among, rawNonce, rawPayload,
          plain, ?_, ?_, valid, sealed⟩
        · rw [field_eq_ok nonceField]
          exact b64decode_eq_ok nonceDecoded
        · rw [field_eq_ok payloadField]
          exact b64decode_eq_ok payloadDecoded

variable {prepared : PreparedInbound}

theorem decode_of_produced (distinct : later.Distinct)
    (produced : Produced formats later queue.keys.values row prepared) :
    queue.decode formats later row = .ok ⟨row.messageId, prepared⟩ := by
  obtain ⟨binding, key, among, nonce, cipher, plain, nonceDecoded,
    cipherDecoded, valid, sealed⟩ := produced
  obtain ⟨nonceText, nonceField, nonceDecoded⟩ := Option.bind_eq_some_iff.mp nonceDecoded
  obtain ⟨cipherText, cipherField, cipherDecoded⟩ := Option.bind_eq_some_iff.mp cipherDecoded
  have opened := distinct.decryptAny sealed among
  simp [EmergencyQueue.decode, decrypt, field, b64decode, binding, nonceField, cipherField,
    nonceDecoded, cipherDecoded, opened, valid, bind, Except.bind, pure, Except.pure]

variable {keys : List Bytes}

theorem Produced.mono (produced : Produced formats vault keys row prepared)
    (grown : ∀ sealing ∈ vault, sealing ∈ later) : Produced formats later keys row prepared := by
  obtain ⟨binding, key, among, nonce, cipher, plain, nonceDecoded,
    cipherDecoded, valid, sealed⟩ := produced
  exact ⟨binding, key, among, nonce, cipher, plain, nonceDecoded,
    cipherDecoded, valid, grown _ sealed⟩

theorem Produced.unique (distinct : vault.Distinct) {others : List Bytes}
    {other : PreparedInbound} (first : Produced formats vault keys row prepared)
    (second : Produced formats vault others row other) : prepared = other := by
  obtain ⟨_, key, _, nonce, cipher, plain, _, decoded, valid, sealed⟩ := first
  obtain ⟨_, key', _, nonce', cipher', plain', _, decoded', valid', sealed'⟩ := second
  cases decoded.symm.trans decoded'
  have same : plain = plain' := congrArg Sealing.plain (distinct.eq_of_cipher sealed sealed' rfl)
  subst same
  exact Option.some.inj (valid.symm.trans valid')

theorem produced_fields (messageId : String) {nonce cipher : Bytes}
    (sealed : ⟨queue.key, nonce, prepared.context.channelBindingId,
      formats.modelDumpJson prepared, cipher⟩ ∈ vault)
    (among : queue.key ∈ keys) :
    Produced formats vault keys
      ⟨messageId, queue.fields formats prepared nonce cipher⟩ prepared := by
  refine ⟨rfl, queue.key, among, nonce, cipher, _, ?_, ?_, formats.validate_dump prepared, sealed⟩
  · exact formats.b64decode_encode nonce
  · exact formats.b64decode_encode cipher

structure Grows (before after : EmergencyWorld Plain) : Prop where
  vault : ∀ sealing ∈ before.vault, sealing ∈ after.vault
  entries : ∀ entry ∈ before.entries, entry ∈ after.entries
  accepted : ∀ message ∈ before.accepted, message ∈ after.accepted
  rejected : ∀ message ∈ before.rejected, message ∈ after.rejected

theorem Grows.refl (world : EmergencyWorld Plain) : Grows world world :=
  ⟨fun _ => id, fun _ => id, fun _ => id, fun _ => id⟩

def Settled (world : EmergencyWorld Plain) (message : EmergencyMessage) : Prop :=
  message ∈ world.accepted ∨ message ∈ world.rejected

theorem Settled.mono {before after : EmergencyWorld Plain} (settled : Settled before message)
    (grows : Grows before after) : Settled after message :=
  settled.imp (grows.accepted message) (grows.rejected message)

/-- What the runs of a claim are restricted to: which entries a queue is given,
and whether all keys in use are in every ring. -/
structure Rules where
  given : EmergencyQueue → StreamEntry → Prop
  complete : Prop
  keys : List Bytes

variable {rules : Rules} {world after : EmergencyWorld Plain}

structure Given (rules : Rules) (world : EmergencyWorld Plain)
    (queue : EmergencyQueue) (messageId : String) (entry : StreamEntry) :
    Prop where
  member : entry ∈ world.entries
  named : entry.row.messageId = messageId
  given : rules.given queue entry

theorem Given.mono {messageId : String} {entry : StreamEntry}
    (given : Given rules world queue messageId entry) (grows : Grows world after) :
    Given rules after queue messageId entry :=
  ⟨grows.entries entry given.member, given.named, given.given⟩

structure Sound (formats : EmergencyFormats Plain) (rules : Rules)
    (world : EmergencyWorld Plain) : Prop where
  distinct : world.vault.Distinct
  /-- Only `enqueue` encrypts. -/
  dumped : ∀ sealing ∈ world.vault, ∃ prepared, sealing.plain = formats.modelDumpJson prepared
  unique : ∀ first ∈ world.entries, ∀ second ∈ world.entries,
    first.row.messageId = second.row.messageId → first = second
  written : ∀ entry ∈ world.entries, ∀ queue prepared, entry.origin = some (queue, prepared) →
      (rules.complete → queue.key ∈ rules.keys) ∧ ∃ nonce cipher,
        entry.row.fields = queue.fields formats prepared nonce cipher ∧
        ⟨queue.key, nonce, prepared.context.channelBindingId,
          formats.modelDumpJson prepared, cipher⟩ ∈ world.vault
  removed : ∀ removal ∈ world.removed, ∃ entry,
    Given rules world removal.queue removal.messageId entry ∧ (rules.complete → ∀ queue prepared,
        entry.origin = some (queue, prepared) → Settled world ⟨removal.messageId, prepared⟩)

def Equipped (rules : Rules) : EmergencyTask → Prop
  | .enqueue queue _ _ => queue.key ∈ rules.keys
  | task => ∀ key ∈ rules.keys, key ∈ task.queue.keys.values

structure Fits (formats : EmergencyFormats Plain) (rules : Rules)
    (world : EmergencyWorld Plain) (name : EmergencyTask) (handled : Handled) :
    Prop where
  equipped : rules.complete → handled.launched = true → Equipped rules name
  encrypted : ∀ queue prepared call, name = .enqueue queue prepared call →
    ∀ nonce cipher, handled.encrypted = some (nonce, cipher) →
      ⟨queue.key, nonce, prepared.context.channelBindingId,
        formats.modelDumpJson prepared, cipher⟩ ∈ world.vault
  rows : ∀ row ∈ handled.rows, ∃ entry,
    Given rules world name.queue row.messageId entry ∧ entry.row = row
  known : ∀ message ∈ handled.known, ∃ entry, Given rules world name.queue message.messageId entry ∧
      Produced formats world.vault name.queue.keys.values entry.row message.prepared
  refused : ∀ messageId ∈ handled.refused, ∃ entry, Given rules world name.queue messageId entry ∧
      (rules.complete → entry.origin = none)
  settled : ∀ message ∈ handled.settled, message ∈ handled.known ∧ Settled world message

structure Lossless (formats : EmergencyFormats Plain) (rules : Rules)
    (world : EmergencyWorld Plain) (stages : EmergencyTask → Handled) : Prop where
  sound : Sound formats rules world
  fits : ∀ name, Fits formats rules world name (stages name)

variable {name : EmergencyTask} {handled : Handled} {stages : EmergencyTask → Handled}

theorem Fits.mono (fits : Fits formats rules world name handled)
    (grows : Grows world after) : Fits formats rules after name handled where
  equipped := fits.equipped
  encrypted := fun queue prepared call same nonce cipher pair =>
    grows.vault _ (fits.encrypted queue prepared call same nonce cipher pair)
  rows := by
    intro row member
    obtain ⟨entry, given, same⟩ := fits.rows row member
    exact ⟨entry, given.mono grows, same⟩
  known := by
    intro message member
    obtain ⟨entry, given, produced⟩ := fits.known message member
    exact ⟨entry, given.mono grows, produced.mono grows.vault⟩
  refused := by
    intro messageId member
    obtain ⟨entry, given, foreign⟩ := fits.refused messageId member
    exact ⟨entry, given.mono grows, foreign⟩
  settled := fun message member =>
    ⟨(fits.settled message member).1, (fits.settled message member).2.mono grows⟩

theorem Sound.removed_entry (sound : Sound formats rules world) {removal : Removal}
    {entry : StreamEntry} (removed : removal ∈ world.removed) (member : entry ∈ world.entries)
    (named : entry.row.messageId = removal.messageId) :
    Given rules world removal.queue removal.messageId entry ∧ (rules.complete → ∀ queue prepared,
        entry.origin = some (queue, prepared) → Settled world ⟨removal.messageId, prepared⟩) := by
  obtain ⟨other, given, settled⟩ := sound.removed removal removed
  have same := sound.unique entry member other given.member (named.trans given.named.symm)
  subst same
  exact ⟨given, settled⟩

theorem Sound.removed_mono (sound : Sound formats rules world)
    (grows : Grows world after) {removal : Removal}
    (member : removal ∈ world.removed) : ∃ entry,
      Given rules after removal.queue removal.messageId entry ∧ (rules.complete → ∀ queue prepared,
          entry.origin = some (queue, prepared) → Settled after ⟨removal.messageId, prepared⟩) := by
  obtain ⟨entry, given, settled⟩ := sound.removed removal member
  exact ⟨entry, given.mono grows, fun complete queue prepared origin =>
    (settled complete queue prepared origin).mono grows⟩

variable {effect : EmergencyEffect}

namespace Lossless

section Lossless

variable (lossless : Lossless formats rules world stages)

include lossless

theorem advance (grows : Grows world after) (sound : Sound formats rules after)
    (fits : Fits formats rules after name handled) :
    Lossless formats rules after (Function.update stages name handled) where
  sound := sound
  fits := by
    intro other
    by_cases same : other = name
    · subst same
      rw [Function.update_self]
      exact fits
    · rw [Function.update_of_ne same]
      exact (lossless.fits other).mono grows

theorem encrypt (sealing : Sealing Bytes Plain Bytes String)
    (fresh : ∀ old ∈ world.vault, old.cipher ≠ sealing.cipher)
    (dumped : ∃ prepared, sealing.plain = formats.modelDumpJson prepared) :
    Grows world (world.encrypt sealing) ∧ Sound formats rules (world.encrypt sealing) := by
  have grows : Grows world (world.encrypt sealing) :=
    ⟨fun _ => List.mem_cons_of_mem _, fun _ => id, fun _ => id, fun _ => id⟩
  refine ⟨grows, ?_, ?_, lossless.sound.unique, ?_, ?_⟩
  · refine List.nodup_cons.mpr ⟨?_, lossless.sound.distinct⟩
    intro member
    obtain ⟨old, among, same⟩ := List.mem_map.mp member
    exact fresh old among same
  · intro other member
    rcases List.mem_cons.mp member with rfl | old
    · exact dumped
    · exact lossless.sound.dumped other old
  · intro entry member queue prepared origin
    obtain ⟨among, nonce, cipher, fields, sealed⟩ :=
      lossless.sound.written entry member queue prepared origin
    exact ⟨among, nonce, cipher, fields, List.mem_cons_of_mem _ sealed⟩
  · exact fun removal member => lossless.sound.removed_mono grows member

theorem write (entry : StreamEntry) (unused : world.unused entry.row.messageId = true)
    (written : ∀ queue prepared, entry.origin = some (queue, prepared) →
      (rules.complete → queue.key ∈ rules.keys) ∧ ∃ nonce cipher,
        entry.row.fields = queue.fields formats prepared nonce cipher ∧
        ⟨queue.key, nonce, prepared.context.channelBindingId,
          formats.modelDumpJson prepared, cipher⟩ ∈ world.vault) :
    Grows world (world.write entry) ∧ Sound formats rules (world.write entry) := by
  have grows : Grows world (world.write entry) :=
    ⟨fun _ => id, fun _ => List.mem_append_left _, fun _ => id, fun _ => id⟩
  have fresh (old : StreamEntry) (member : old ∈ world.entries) : old.row.messageId ≠
      entry.row.messageId := of_decide_eq_true (List.all_eq_true.mp unused old member)
  refine ⟨grows, lossless.sound.distinct, lossless.sound.dumped, ?_, ?_, ?_⟩
  · intro first member second among same
    rcases List.mem_append.mp member with old | new
    · rcases List.mem_append.mp among with other | new
      · exact lossless.sound.unique first old second other same
      · cases List.mem_singleton.mp new
        exact absurd same (fresh first old)
    · cases List.mem_singleton.mp new
      rcases List.mem_append.mp among with other | new
      · exact absurd same.symm (fresh second other)
      · exact (List.mem_singleton.mp new).symm
  · intro other member
    rcases List.mem_append.mp member with old | new
    · exact lossless.sound.written other old
    · cases List.mem_singleton.mp new
      exact written
  · exact fun removal member => lossless.sound.removed_mono grows member

theorem remove {messageId : String} (removes : (stages name).Removes messageId) :
    Grows world (world.remove name.queue messageId) ∧
      Sound formats rules (world.remove name.queue messageId) := by
  have grows : Grows world (world.remove name.queue messageId) :=
    ⟨fun _ => id, fun _ => id, fun _ => id, fun _ => id⟩
  refine ⟨grows, lossless.sound.distinct, lossless.sound.dumped,
    lossless.sound.unique, lossless.sound.written, ?_⟩
  intro removal member
  rcases List.mem_cons.mp member with rfl | old
  · have fits := lossless.fits name
    rcases removes with refused | ⟨message, settled, rfl⟩
    · obtain ⟨entry, given, foreign⟩ := fits.refused messageId refused
      refine ⟨entry, given.mono grows, ?_⟩
      intro complete queue prepared origin
      rw [foreign complete] at origin
      exact nomatch origin
    · obtain ⟨known, decided⟩ := fits.settled message settled
      obtain ⟨entry, given, produced⟩ := fits.known message known
      refine ⟨entry, given.mono grows, ?_⟩
      intro complete queue prepared origin
      obtain ⟨_, nonce, cipher, fields, sealed⟩ :=
        lossless.sound.written entry given.member queue prepared origin
      have enqueued : Produced formats world.vault [queue.key] entry.row prepared := by
        have made := produced_fields entry.row.messageId sealed (List.mem_singleton_self queue.key)
        rw [← fields] at made
        exact made
      obtain rfl := enqueued.unique lossless.sound.distinct produced
      exact decided
  · exact lossless.sound.removed_mono grows old

theorem decide (grows : Grows world after)
    (removed : after.removed = world.removed) (vault : after.vault = world.vault)
    (entries : after.entries = world.entries) : Lossless formats rules after stages := by
  refine ⟨⟨?_, ?_, ?_, ?_, ?_⟩, fun name => (lossless.fits name).mono grows⟩
  · rw [vault]
    exact lossless.sound.distinct
  · rw [vault]
    exact lossless.sound.dumped
  · rw [entries]
    exact lossless.sound.unique
  · rw [entries, vault]
    exact lossless.sound.written
  · intro removal member
    rw [removed] at member
    exact lossless.sound.removed_mono grows member

theorem unmoved (name : EmergencyTask) :
    Lossless formats rules world (Function.update stages name (stages name)) := by
  rw [Function.update_eq_self]
  exact lossless

section Known

variable (known : message ∈ (stages name).known)

include known

theorem settle (settled : Settled world message) :
    Lossless formats rules world (Function.update stages name ((stages name).settle message)) := by
  have fits := lossless.fits name
  refine lossless.advance (.refl _) lossless.sound { fits with settled := ?_ }
  intro other member
  rcases List.mem_cons.mp member with rfl | old
  · exact ⟨known, settled⟩
  · exact fits.settled other old

theorem raised {error : EmergencyError}
    (settled : error.isRejection = true → Settled world message) :
    Lossless formats rules world
      (Function.update stages name ((stages name).raised error message)) := by
  unfold Handled.raised
  split
  case isTrue rejects => exact lossless.settle known (settled rejects)
  case isFalse => exact lossless.unmoved name

theorem reject (error : EmergencyError) : Lossless formats rules (world.reject error message)
      (Function.update stages name ((stages name).raised error message)) := by
  unfold EmergencyWorld.reject
  split
  case isTrue =>
    have decided : Lossless formats rules { world with rejected := message :: world.rejected }
      stages := lossless.decide ⟨fun _ => id, fun _ => id, fun _ => id, fun _ =>
      List.mem_cons_of_mem _⟩ rfl rfl rfl
    exact decided.raised known fun _ => .inr (List.mem_cons_self ..)
  case isFalse accepts => exact lossless.raised known fun rejects => absurd rejects accepts

theorem accept (fate : Fate EmergencyError) :
    Lossless formats rules (world.accept fate message).2 (Function.update stages name
        ((stages name).decided message (world.accept fate message).1)) := by
  have accepted : Settled { world with accepted := message :: world.accepted }
      message := .inl (List.mem_cons_self ..)
  have decided : Lossless formats rules { world with accepted := message :: world.accepted }
    stages := lossless.decide ⟨fun _ => id, fun _ => id, fun _ => List.mem_cons_of_mem _, fun _ =>
    id⟩ rfl rfl rfl
  cases fate with
  | answered => exact decided.settle known accepted
  | lost error => exact decided.raised known fun _ => accepted
  | failed error => exact lossless.reject known error

theorem getConfig (fate : Fate EmergencyError) :
    Lossless formats rules (world.getConfig fate message).2 (Function.update stages name
        ((stages name).lookedUp message (world.getConfig fate message).1)) := by
  cases fate with
  | answered => exact lossless.unmoved name
  | lost error => exact lossless.reject known error
  | failed error => exact lossless.reject known error

end Known

theorem hand {rows : List Nat}
    (given : ∀ index ∈ rows, ∀ entry, world.entries[index]? = some entry →
      rules.given name.queue entry) :
    Lossless formats rules world (Function.update stages name
      ((stages name).handedOut (.ok (world.handOut rows)))) := by
  have fits := lossless.fits name
  refine lossless.advance (.refl _) lossless.sound { fits with rows := ?_ }
  intro row member
  rcases List.mem_append.mp member with new | old
  · obtain ⟨index, among, found⟩ := List.mem_filterMap.mp new
    obtain ⟨entry, there, rfl⟩ := Option.map_eq_some_iff.mp found
    exact ⟨entry, ⟨List.mem_of_getElem? there, rfl, given index among entry there⟩, rfl⟩
  · exact fits.rows row old

theorem decode (drains : name.Drains)
    (launched : (stages name).launched = true) (given : row ∈ (stages name).rows) :
    Lossless formats rules world (Function.update stages name ((stages name).decoded row
        (name.queue.decode formats world.vault row))) := by
  have fits := lossless.fits name
  obtain ⟨entry, given, same⟩ := fits.rows row given
  cases decoded : name.queue.decode formats world.vault row with
  | ok message =>
    obtain ⟨named, produced⟩ := decode_eq_ok decoded
    refine lossless.advance (.refl _) lossless.sound { fits with known := ?_, settled := ?_ }
    · intro other member
      rcases List.mem_cons.mp member with rfl | old
      · refine ⟨entry, ?_, by rw [same]; exact produced⟩
        rw [named]
        exact given
      · exact fits.known other old
    · intro other member
      exact ⟨List.mem_cons_of_mem _ (fits.settled other member).1, (fits.settled other member).2⟩
  | error error =>
    refine lossless.advance (.refl _) lossless.sound { fits with refused := ?_ }
    intro messageId member
    rcases List.mem_cons.mp member with rfl | old
    · refine ⟨entry, given, fun complete => ?_⟩
      cases origin : entry.origin with
      | none => rfl
      | some pair =>
        obtain ⟨queue, prepared⟩ := pair
        obtain ⟨among, nonce, cipher, fields, sealed⟩ :=
          lossless.sound.written entry given.member queue prepared origin
        have ring : queue.key ∈ name.queue.keys.values := by
          have equipped := fits.equipped complete launched
          cases name with
          | enqueue _ _ _ => exact drains.elim
          | consume _ _ _ _ => exact equipped _ (among complete)
          | drainOnce _ _ => exact equipped _ (among complete)
        have made := produced_fields entry.row.messageId sealed ring
        rw [← fields] at made
        have decodes := decode_of_produced lossless.sound.distinct made
        rw [same, decoded] at decodes
        exact nomatch decodes
    · exact fits.refused messageId old

end Lossless

theorem transacted {state : EmergencyWorld Plain} {α : Type} {value : α}
    {learnt : Except EmergencyError α → Handled} (fate : Fate EmergencyError)
    (nothing : ∀ error, Lossless formats rules world
      (Function.update stages name (learnt (.error error))))
    (done : ∀ answer, Lossless formats rules state (Function.update stages name (learnt answer))) :
    Lossless formats rules (fate.transact (.ok (value, state)) world).2 (Function.update stages name
        (learnt (fate.transact (.ok (value, state)) world).1)) := by
  cases fate with
  | answered => exact done _
  | lost error => exact done _
  | failed error => exact nothing error

section Respond

variable (lossless : Lossless formats rules world stages) {choice : EmergencyChoice}

include lossless

theorem respondEnqueue {call : Nat} (same : name = .enqueue queue prepared call)
    (launched : (stages name).launched = true)
    (permitted : writes formats queue prepared (stages name) effect)
    (fresh : ∀ key prepared bindingId, effect = .encrypt key prepared bindingId →
      ∀ old ∈ world.vault, old.cipher ≠ choice.cipher)
    (unused : ∀ fields, effect = .xadd fields → world.unused choice.messageId = true) :
    Lossless formats rules (respond formats name effect choice world).2
      (Function.update stages name (learn (stages name) effect
        (respond formats name effect choice world).1)) := by
  have fits := lossless.fits name
  rcases permitted with rfl | ⟨nonce, cipher, pair, rfl⟩
  · obtain ⟨grows, sound⟩ := lossless.encrypt ⟨queue.key, choice.nonce,
      prepared.context.channelBindingId, formats.modelDumpJson prepared,
      choice.cipher⟩ (fresh _ _ _ rfl) ⟨prepared, rfl⟩
    refine lossless.advance grows sound { fits.mono grows with encrypted := ?_ }
    rintro queue' prepared' call' alike nonce cipher pair
    cases same.symm.trans alike
    cases pair
    exact List.mem_cons_self ..
  · obtain ⟨grows, sound⟩ := lossless.write ⟨⟨choice.messageId, queue.fields formats prepared nonce
      cipher⟩, originOf name⟩ (unused _ rfl) (by
        intro queue' prepared' origin
        subst same
        cases origin
        exact ⟨fun complete => fits.equipped complete launched, nonce, cipher,
          rfl, fits.encrypted queue prepared call rfl nonce cipher pair⟩)
    exact transacted choice.fate (fun _ => lossless.unmoved name)
      fun _ => lossless.advance grows sound (fits.mono grows)

theorem respondDrain (drainer : name.Drains) (launched : (stages name).launched = true)
    (permitted : drains (stages name) effect)
    (given : ((∃ consumer count, effect = .xautoclaim consumer count) ∨
        ∃ consumer count, effect = .xreadgroup consumer count) →
      ∀ index ∈ choice.rows, ∀ entry, world.entries[index]? = some entry →
        rules.given name.queue entry) :
    Lossless formats rules (respond formats name effect choice world).2
      (Function.update stages name (learn (stages name) effect
        (respond formats name effect choice world).1)) := by
  cases effect with
  | encrypt _ _ _ => exact permitted.elim
  | xadd _ => exact permitted.elim
  | ensureGroup => cases choice.fate <;> exact lossless.unmoved name
  | xautoclaim consumer count =>
    have handed := lossless.hand (given (.inl ⟨consumer, count, rfl⟩))
    simp only [respond]
    cases choice.fate with
    | answered => exact handed
    | lost _ => exact lossless.unmoved name
    | failed _ => exact lossless.unmoved name
  | xreadgroup consumer count =>
    have handed := lossless.hand (given (.inr ⟨consumer, count, rfl⟩))
    simp only [respond]
    cases choice.fate with
    | answered => exact handed
    | lost _ => exact lossless.unmoved name
    | failed _ => exact lossless.unmoved name
  | decode row => exact lossless.decode drainer launched permitted
  | xack messageId | xdel messageId =>
    obtain ⟨grows, sound⟩ := lossless.remove permitted
    exact transacted choice.fate (fun _ => lossless.unmoved name)
      fun _ => lossless.advance grows sound ((lossless.fits name).mono grows)
  | isStopping => exact lossless.unmoved name
  | getConfig message => exact lossless.getConfig permitted choice.fate
  | acceptInbound message => exact lossless.accept permitted choice.fate
  | acceptInboundV2 message => exact lossless.accept permitted choice.fate

end Respond

end Lossless

structure Allows (rules : Rules) (fleet : EmergencyFleet Plain)
    (action : EmergencyAction) : Prop where
  ideal : ideal fleet action = true
  equipped : ∀ task, action = .start task → rules.complete → Equipped rules task
  given : ∀ name choice, action = .resume name choice →
    ((∃ consumer count, (fleet.tasks name).awaited = some (.xautoclaim consumer count)) ∨
      ∃ consumer count, (fleet.tasks name).awaited = some (.xreadgroup consumer count)) →
    ∀ index ∈ choice.rows, ∀ entry, fleet.state.entries[index]? = some entry →
        rules.given name.queue entry

theorem fits_unlaunched : Fits formats rules world name {} where
  equipped := nofun
  encrypted := nofun
  rows := nofun
  known := nofun
  refused := nofun
  settled := nofun

theorem lossless_reachable {fleet : EmergencyFleet Plain}
    {allowed : EmergencyFleet Plain → EmergencyAction → Prop}
    (allows : ∀ fleet action, allowed fleet action → Allows rules fleet action)
    (reached : (draining formats).Steps allowed emptyStream fleet) :
    ∃ stages, Behaviour.Follows (handling formats) (fun _ _ _ => True)
      (Lossless formats rules) fleet stages := by
  refine Behaviour.Steps.follows ?_ ?_ ?_ reached
    ⟨fun _ => {}, ⟨⟨List.nodup_nil, nofun, nofun, nofun, nofun⟩,
      fun _ => fits_unlaunched⟩, fun _ => trivial⟩
  · intro fleet stages launch follows permitted
    refine ⟨{ launched := true }, obeys_program formats launch,
      follows.fits.advance (.refl _) follows.fits.sound ?_⟩
    exact
      { fits_unlaunched with
        equipped := fun complete _ =>
          (allows fleet _ permitted).equipped launch rfl complete }
  · intro fleet stages name effect resume choice follows awaits permitted permits
    have rule := allows fleet _ permitted
    have awaited : (fleet.tasks name).awaited = some effect := by
      rw [awaits]
      rfl
    have ideal := rule.ideal
    simp only [Emergency.ideal, awaited] at ideal
    obtain ⟨launched, permits⟩ := permits
    cases task : name with
    | enqueue queue prepared call =>
      rw [← task]
      refine follows.fits.respondEnqueue task launched
        (by rw [task] at permits ⊢; exact permits) ?_ ?_
      · rintro key prepared bindingId rfl old member
        exact of_decide_eq_true (List.all_eq_true.mp ideal old member)
      · rintro fields rfl
        exact ideal
    | consume queue consumer count call =>
      rw [← task]
      have drainer : name.Drains := by
        rw [task]
        trivial
      refine follows.fits.respondDrain drainer launched
        (by rw [task] at permits ⊢; exact permits) fun asks => ?_
      refine rule.given name choice rfl ?_
      rw [awaited]
      simpa using asks
    | drainOnce drainer call =>
      rw [← task]
      have drains : name.Drains := by
        rw [task]
        trivial
      refine follows.fits.respondDrain drains launched
        (by rw [task] at permits ⊢; exact permits) fun asks => ?_
      refine rule.given name choice rfl ?_
      rw [awaited]
      simpa using asks
  · intro fleet stages move follows permitted
    cases move with
    | write row =>
      obtain ⟨grows, sound⟩ := follows.fits.write ⟨row, none⟩ (allows fleet _ permitted).ideal nofun
      exact ⟨sound, fun name => (follows.fits.fits name).mono grows⟩

/-- Everybody enqueues with one of these keys, and whoever drains has all of
them. -/
def holdsKeys (keys : List Bytes) : EmergencyAction → Bool
  | .start (.enqueue queue _ _) => queue.key ∈ keys
  | .start task => keys.all fun key => key ∈ task.queue.keys.values
  | _ => true

def EnqueuedUnder (formats : EmergencyFormats Plain) (vault : EmergencyVault Plain)
    (keys : List Bytes) (row : StreamRow) (prepared : PreparedInbound) : Prop :=
  row.fields.lookup "binding_id" = some prepared.context.channelBindingId ∧
    ∃ key ∈ keys, ∃ nonce cipher, (row.fields.lookup "nonce").bind formats.b64decode = some nonce ∧
      (row.fields.lookup "payload").bind formats.b64decode = some cipher ∧
      ⟨key, nonce, prepared.context.channelBindingId,
        formats.modelDumpJson prepared, cipher⟩ ∈ vault

def EmergencyEffect.passes : EmergencyEffect → Option EmergencyMessage
  | .getConfig message => some message
  | .acceptInbound message => some message
  | .acceptInboundV2 message => some message
  | _ => none

theorem enqueuedUnder_of_produced (sound : Sound formats rules world)
    (produced : Produced formats world.vault keys row prepared) :
    EnqueuedUnder formats world.vault keys row prepared := by
  obtain ⟨binding, key, among, nonce, cipher, plain, nonceDecoded,
    cipherDecoded, valid, sealed⟩ := produced
  refine ⟨binding, key, among, nonce, cipher, nonceDecoded, cipherDecoded, ?_⟩
  obtain ⟨other, same⟩ := sound.dumped _ sealed
  have same : plain = formats.modelDumpJson other := same
  subst same
  rw [formats.validate_dump] at valid
  cases valid
  exact sealed

theorem known_of_passes {fleet : EmergencyFleet Plain}
    (follows : Behaviour.Follows (handling formats) (fun _ _ _ => True)
      (Lossless formats rules) fleet stages)
    (awaited : (fleet.tasks name).awaited = some effect)
    (passes : effect.passes = some message) :
    message ∈ (stages name).known := by
  have obeys := follows.obeys name
  cases task : fleet.tasks name with
  | done _ =>
    rw [task] at awaited
    exact nomatch awaited
  | await asked resume =>
    rw [task] at awaited obeys
    cases awaited
    obtain ⟨⟨_, permitted⟩, _⟩ := obeys
    cases name with
    | enqueue _ _ _ => rcases permitted with rfl | ⟨_, _, _, rfl⟩ <;> exact nomatch passes
    | consume _ _ _ _ => cases effect <;> cases passes <;> exact permitted
    | drainOnce _ _ => cases effect <;> cases passes <;> exact permitted

def sampleFormats : EmergencyFormats PreparedInbound where
  b64encode bytes := String.ofList (bytes.map fun byte => Char.ofNat byte.toNat)
  b64decode text := some (text.toList.map fun char => UInt8.ofNat char.toNat)
  b64decode_encode := by
    intro bytes
    have back (byte : UInt8) : UInt8.ofNat (Char.ofNat byte.toNat).toNat = byte := by
      have small := byte.toNat_lt
      have valid : byte.toNat.isValidChar := .inl (by omega)
      have same : (Char.ofNat byte.toNat).toNat = byte.toNat := by
        rw [Char.ofNat, dif_pos valid]
        rfl
      rw [same]
      exact UInt8.ofNat_toNat
    simp [Function.comp_def, back]
  modelDumpJson prepared := prepared
  modelValidateJson plain := some plain
  validate_dump _ := rfl

def samplePrepared : PreparedInbound where
  context := ⟨"tenant-a", "app", 1, "binding", "principal", "session", "request", "trace"⟩
  envelope := ⟨.feishu, "account", "message", "{}"⟩

def oldQueue : EmergencyQueue := ⟨"v1", [1], Dict.empty.set "v1" [1]⟩

def newQueue : EmergencyQueue := ⟨"v2", [2], (Dict.empty.set "v2" [2]).set "v1" [1]⟩

def replayRun (enqueuing drained : EmergencyQueue) : List EmergencyAction :=
  let gateway := EmergencyTask.enqueue enqueuing samplePrepared 0
  let drainer := EmergencyTask.drainOnce ⟨drained, "drainer", .v1⟩ 0
  [.start gateway, .resume gateway { nonce := [7], cipher := [8] },
    .resume gateway { messageId := "1-0" }, .start drainer,
    .resume drainer {}, .resume drainer {}, .resume drainer { rows := [0] },
    .resume drainer {}, .resume drainer {}, .resume drainer {},
    .resume drainer {}, .resume drainer {}, .resume drainer {}]

/-- An entry that `enqueue` wrote is acknowledged or deleted only after the
repository has decided on what was enqueued, and nothing else is passed to the
repository. -/
theorem emergency_entries_durable (keys : List Bytes) {fleet : EmergencyFleet Plain}
    (reached : (draining formats).Steps (fun fleet action =>
      ideal fleet action = true ∧ holdsKeys keys action = true)
      emptyStream fleet) :
    (∀ removal ∈ fleet.state.removed, ∀ entry ∈ fleet.state.entries,
      entry.row.messageId = removal.messageId → ∀ queue prepared,
        entry.origin = some (queue, prepared) →
          ⟨removal.messageId, prepared⟩ ∈ fleet.state.accepted ∨
            ⟨removal.messageId, prepared⟩ ∈ fleet.state.rejected) ∧
    ∀ name effect message, (fleet.tasks name).awaited = some effect → effect.passes = some message →
      ∃ entry ∈ fleet.state.entries, entry.row.messageId = message.messageId ∧
        EnqueuedUnder formats fleet.state.vault name.queue.keys.values
          entry.row message.prepared := by
  have allows (fleet : EmergencyFleet Plain) (action : EmergencyAction)
      (allowed : ideal fleet action = true ∧ holdsKeys keys action = true) :
      Allows ⟨fun _ _ => True, True, keys⟩ fleet action := by
    refine ⟨allowed.1, ?_, fun _ _ _ _ _ _ _ _ => trivial⟩
    rintro task rfl _
    cases task with
    | enqueue queue prepared call =>
        have holds : queue.key ∈ keys := of_decide_eq_true allowed.2
        exact holds
    | consume queue consumer count call =>
        exact fun key member => of_decide_eq_true (List.all_eq_true.mp allowed.2 key member)
    | drainOnce drainer call =>
        exact fun key member => of_decide_eq_true (List.all_eq_true.mp allowed.2 key member)
  obtain ⟨stages, follows⟩ := lossless_reachable allows reached
  have sound := follows.fits.sound
  refine ⟨?_, ?_⟩
  · intro removal removed entry member named queue prepared origin
    exact (sound.removed_entry removed member named).2 trivial queue prepared origin
  · intro name effect message awaited passes
    obtain ⟨entry, given, produced⟩ := (follows.fits.fits name).known message
      (known_of_passes follows awaited passes)
    exact ⟨entry, given.member, given.named, enqueuedUnder_of_produced sound produced⟩

theorem replayed_after_acceptance :
    let fleet := (draining sampleFormats).play (replayRun newQueue newQueue) emptyStream
    fleet.state.removed.map Removal.messageId = ["1-0", "1-0"] ∧
      ∀ removal ∈ fleet.state.removed, ∀ entry ∈ fleet.state.entries,
        entry.row.messageId = removal.messageId → ∀ queue prepared,
          entry.origin = some (queue, prepared) →
            ⟨removal.messageId, prepared⟩ ∈ fleet.state.accepted ∨
              ⟨removal.messageId, prepared⟩ ∈ fleet.state.rejected :=
  ⟨by decide +kernel, (emergency_entries_durable [[1], [2]]
    (.play (replayRun newQueue newQueue) (by decide +kernel))).1⟩

def EmergencyQueue.recognises (queue : EmergencyQueue) (entry : StreamEntry) : Bool :=
  match entry.origin with
  | some (origin, _) => origin.keyVersion ∈ queue.keys.keys
  | none => true

/-- A drainer is given only entries whose key version is in its ring. -/
def givesRecognised (fleet : EmergencyFleet Plain) : EmergencyAction → Bool
  | .resume name choice =>
      match (fleet.tasks name).awaited with
      | some (.xautoclaim _ _) => choice.rows.all fun index =>
          (fleet.state.entries[index]?).all name.queue.recognises
      | some (.xreadgroup _ _) => choice.rows.all fun index =>
          (fleet.state.entries[index]?).all name.queue.recognises
      | _ => true
  | _ => true

/-- In every run in which no drainer is given an entry of a key version that it
does not have, it removes no such entry. -/
theorem unrecognised_entries_kept {fleet : EmergencyFleet Plain}
    (reached : (draining formats).Steps (fun fleet action =>
      ideal fleet action = true ∧ givesRecognised fleet action = true)
      emptyStream fleet) :
    ∀ removal ∈ fleet.state.removed, ∀ entry ∈ fleet.state.entries,
      entry.row.messageId = removal.messageId → ∀ queue prepared,
        entry.origin = some (queue, prepared) → queue.keyVersion ∈ removal.queue.keys.keys := by
  have allows (fleet : EmergencyFleet Plain) (action : EmergencyAction)
      (allowed : ideal fleet action = true ∧ givesRecognised fleet action = true) :
      Allows ⟨fun queue entry => queue.recognises entry = true, False, []⟩ fleet action := by
    refine ⟨allowed.1, nofun, ?_⟩
    rintro name choice rfl asks index member entry found
    have gives := allowed.2
    have all : (choice.rows.all fun index =>
        (fleet.state.entries[index]?).all name.queue.recognises) = true := by
      rcases asks with ⟨_, _, awaited⟩ | ⟨_, _, awaited⟩
      · simpa only [givesRecognised, awaited] using gives
      · simpa only [givesRecognised, awaited] using gives
    have recognised := List.all_eq_true.mp all index member
    rw [found] at recognised
    exact recognised
  obtain ⟨stages, follows⟩ := lossless_reachable allows reached
  have sound := follows.fits.sound
  intro removal removed entry member named queue prepared origin
  have recognised : removal.queue.recognises entry = true :=
    (sound.removed_entry removed member named).1.given
  unfold recognises at recognised
  rw [origin] at recognised
  exact of_decide_eq_true recognised

theorem recognised_entry_removed :
    let fleet := (draining sampleFormats).play (replayRun newQueue newQueue) emptyStream
    fleet.state.removed.map Removal.messageId = ["1-0", "1-0"] ∧
      ∀ removal ∈ fleet.state.removed, ∀ entry ∈ fleet.state.entries,
        entry.row.messageId = removal.messageId → ∀ queue prepared,
          entry.origin = some (queue, prepared) → queue.keyVersion ∈ removal.queue.keys.keys :=
  ⟨by decide +kernel, unrecognised_entries_kept
    (.play (replayRun newQueue newQueue) (by decide +kernel))⟩

/-- A drainer without the new key takes the callback for poison, and drops
it. -/
theorem rotated_entry_dropped :
    let fleet := (draining sampleFormats).play (replayRun newQueue oldQueue) emptyStream
    (draining sampleFormats).Steps
        (fun fleet action => ideal fleet action = true) emptyStream fleet ∧
      (∃ removal ∈ fleet.state.removed, ∃ entry ∈ fleet.state.entries,
        entry.row.messageId = removal.messageId ∧ entry.origin = some (newQueue, samplePrepared) ∧
          newQueue.keyVersion ∉ removal.queue.keys.keys) ∧
      fleet.state.accepted = [] ∧ fleet.state.rejected = [] :=
  ⟨.play (replayRun newQueue oldQueue) (by decide +kernel),
    ⟨_, List.mem_cons_self .., _, List.mem_cons_self .., by decide +kernel, rfl,
      by decide +kernel⟩, by decide +kernel, by decide +kernel⟩

end TrpcService.Queue.Emergency
