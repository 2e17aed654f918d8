import RollupBridge.Proofs.Bytes.Slice
import RollupBridge.Withdrawal.Message

namespace RollupBridge.WithdrawalFinalizer

variable {f : WithdrawalFinalizer} {m : Bytes}

/-- The messages of a bridge pair, with what they say and the amount of ETH they name. -/
inductive Spells (f : WithdrawalFinalizer) : Bytes → WithdrawalMessage → Option (Uint 256) → Prop
  | padded {selector : Selector} {payloadLength : Nat} {payload : Bytes}
      (hlayout : f.layout = .padded selector payloadLength) (hlength : payload.length = payloadLength) :
      Spells f (selector.bytes ++ (Bytes.zeros 12 ++ (f.l2Counterpart.bytes ++ payload)))
        ⟨f.l2Counterpart, none, payload⟩ none
  | ethWithdrawal (hlayout : f.layout = .ethWithdrawal) (amount : Uint 256) (recipient : Address) :
      Spells f (Mailbox.finalizeEthWithdrawal.selector.bytes ++ (f.l1Bridge.bytes ++
          (amount.toWord.bytes ++ (f.l2Counterpart.bytes ++ recipient.bytes))))
        ⟨f.l2Counterpart, some f.l1Bridge, amount.toWord.bytes ++ recipient.bytes⟩ (some amount)

/-- Why a message is refused, in the order of the checks. What is in front of the fault is as it
should be. -/
inductive Misspelled (f : WithdrawalFinalizer) : Bytes → WithdrawalError → Prop
  | length {m : Bytes} (hlength : m.length ≠ f.layout.messageLength) :
      Misspelled f m (.wrongLength f.layout.messageLength m.length)
  | selector {found : Selector} {rest : Bytes} (hlength : 4 + rest.length = f.layout.messageLength)
      (hfound : found ≠ f.layout.selector) :
      Misspelled f (found.bytes ++ rest) (.wrongSelector f.layout.selector.bytes found.bytes)
  | padding {selector : Selector} {payloadLength : Nat} {padding : FixedBytes 12} {sender : Address}
      {payload : Bytes} (hlayout : f.layout = .padded selector payloadLength)
      (hlength : payload.length = payloadLength) (hpadding : padding ≠ FixedBytes.zero) :
      Misspelled f (selector.bytes ++ (padding.bytes ++ (sender.bytes ++ payload))) .senderPadding
  | paddedSender {selector : Selector} {payloadLength : Nat} {sender : Address} {payload : Bytes}
      (hlayout : f.layout = .padded selector payloadLength) (hlength : payload.length = payloadLength)
      (hsender : sender ≠ f.l2Counterpart) :
      Misspelled f (selector.bytes ++ (Bytes.zeros 12 ++ (sender.bytes ++ payload)))
        (.unauthorizedSender f.l2Counterpart sender)
  | receiver {receiver sender recipient : Address} {amount : Word} (hlayout : f.layout = .ethWithdrawal)
      (hreceiver : receiver ≠ f.l1Bridge) :
      Misspelled f (Mailbox.finalizeEthWithdrawal.selector.bytes ++ (receiver.bytes ++
          (amount.bytes ++ (sender.bytes ++ recipient.bytes))))
        (.unauthorizedReceiver f.l1Bridge receiver)
  | ethSender {sender recipient : Address} {amount : Word} (hlayout : f.layout = .ethWithdrawal)
      (hsender : sender ≠ f.l2Counterpart) :
      Misspelled f (Mailbox.finalizeEthWithdrawal.selector.bytes ++ (f.l1Bridge.bytes ++
          (amount.bytes ++ (sender.bytes ++ recipient.bytes))))
        (.unauthorizedSender f.l2Counterpart sender)

/-- The last check of a message: its sender. -/
def checkSender (f : WithdrawalFinalizer) (parsed : WithdrawalMessage) :
    Except WithdrawalError WithdrawalMessage :=
  if parsed.l2Sender ≠ f.l2Counterpart then
    .error (.unauthorizedSender f.l2Counterpart parsed.l2Sender)
  else .ok parsed

/-- The checks of a message, one after the other. -/
theorem parseMessage_eq (f : WithdrawalFinalizer) (m : Bytes) :
    f.parseMessage m =
      if m.length ≠ f.layout.messageLength then
        .error (.wrongLength f.layout.messageLength m.length)
      else if m.take 4 ≠ f.layout.selector.bytes then
        .error (.wrongSelector f.layout.selector.bytes (m.take 4))
      else f.readBody m >>= f.checkSender := by
  unfold parseMessage checkSender
  by_cases hlength : m.length ≠ f.layout.messageLength
  · rw [if_pos hlength, if_pos hlength]
    rfl
  rw [if_neg hlength, if_neg hlength]
  by_cases hfound : m.take 4 ≠ f.layout.selector.bytes
  · rw [if_pos hfound, if_pos hfound]
    rfl
  rw [if_neg hfound, if_neg hfound]
  cases f.readBody m with
  | error error => rfl
  | ok parsed =>
    by_cases hsender : parsed.l2Sender ≠ f.l2Counterpart
    · simp [bind, Except.bind, hsender]
    · simp [bind, Except.bind, pure, Except.pure, hsender]

/-- A body behind the sender's word, cut at its places. -/
theorem readBody_padded {selector found : Selector} {payloadLength : Nat}
    (hlayout : f.layout = .padded selector payloadLength) (padding : FixedBytes 12) (sender : Address)
    (payload : Bytes) :
    f.readBody (found.bytes ++ (padding.bytes ++ (sender.bytes ++ payload))) =
      if padding ≠ FixedBytes.zero then .error .senderPadding else .ok ⟨sender, none, payload⟩ := by
  have hpadding : padding.bytes.any (· != 0) = true ↔ padding ≠ FixedBytes.zero := by
    rw [ne_eq, ← FixedBytes.isZero_iff, FixedBytes.isZero, List.all_eq_true, List.any_eq_true]
    simp
  have hfront : (found.bytes ++ padding.bytes).length = 16 := by simp
  have hsender : FixedBytes.slice (found.bytes ++ (padding.bytes ++ (sender.bytes ++ payload))) 16 =
      sender := by
    rw [← List.append_assoc]
    exact FixedBytes.slice_append hfront
  have hpayload : (found.bytes ++ (padding.bytes ++ (sender.bytes ++ payload))).drop 36 = payload := by
    rw [← List.append_assoc, ← List.append_assoc]
    exact List.drop_left' (by simp)
  simp only [readBody, hlayout, List.drop_left' found.length_eq, List.take_left' padding.length_eq,
    hpadding, hsender, hpayload]

/-- The body of an ETH withdrawal, cut at its places. -/
theorem readBody_ethWithdrawal {found : Selector} (hlayout : f.layout = .ethWithdrawal)
    (receiver : Address) (amount : Word) (sender recipient : Address) :
    f.readBody (found.bytes ++ (receiver.bytes ++ (amount.bytes ++ (sender.bytes ++
        recipient.bytes)))) =
      if receiver ≠ f.l1Bridge then .error (.unauthorizedReceiver f.l1Bridge receiver)
      else .ok ⟨sender, some receiver, amount.bytes ++ recipient.bytes⟩ := by
  have hreceiver : FixedBytes.slice (found.bytes ++ (receiver.bytes ++ (amount.bytes ++
      (sender.bytes ++ recipient.bytes)))) 4 = receiver := FixedBytes.slice_append found.length_eq
  have hamount : ((found.bytes ++ (receiver.bytes ++ (amount.bytes ++ (sender.bytes ++
      recipient.bytes)))).drop 24).take 32 = amount.bytes := by
    rw [← List.append_assoc, List.drop_left' (by simp), List.take_left' amount.length_eq]
  have hsender : FixedBytes.slice (found.bytes ++ (receiver.bytes ++ (amount.bytes ++
      (sender.bytes ++ recipient.bytes)))) 56 = sender := by
    rw [← List.append_assoc, ← List.append_assoc]
    exact FixedBytes.slice_append (by simp)
  have hrecipient : ((found.bytes ++ (receiver.bytes ++ (amount.bytes ++ (sender.bytes ++
      recipient.bytes)))).drop 76).take 20 = recipient.bytes := by
    rw [← List.append_assoc, ← List.append_assoc, ← List.append_assoc, List.drop_left' (by simp),
      List.take_of_length_le (Nat.le_of_eq recipient.length_eq)]
  simp only [readBody, hlayout, hreceiver, hamount, hsender, hrecipient]

/-- A message of the right length fails at its selector, or its body decides. -/
theorem parseMessage_append {found : Selector} {rest : Bytes}
    (hlength : 4 + rest.length = f.layout.messageLength) :
    f.parseMessage (found.bytes ++ rest) =
      if found ≠ f.layout.selector then
        .error (.wrongSelector f.layout.selector.bytes found.bytes)
      else f.readBody (found.bytes ++ rest) >>= f.checkSender := by
  have hwhole : ¬(found.bytes ++ rest).length ≠ f.layout.messageLength := by simpa using hlength
  have hfound : found.bytes ≠ f.layout.selector.bytes ↔ found ≠ f.layout.selector :=
    not_congr ⟨FixedBytes.ext_bytes, congrArg FixedBytes.bytes⟩
  rw [parseMessage_eq, if_neg hwhole, List.take_left' found.length_eq]
  simp only [hfound]

theorem parseMessage_padded {selector : Selector} {payloadLength : Nat}
    (hlayout : f.layout = .padded selector payloadLength) (padding : FixedBytes 12) (sender : Address)
    {payload : Bytes} (hlength : payload.length = payloadLength) :
    f.parseMessage (selector.bytes ++ (padding.bytes ++ (sender.bytes ++ payload))) =
      if padding ≠ FixedBytes.zero then .error .senderPadding
      else f.checkSender ⟨sender, none, payload⟩ := by
  have hwhole : 4 + (padding.bytes ++ (sender.bytes ++ payload)).length = f.layout.messageLength := by
    rw [hlayout, MessageLayout.messageLength]
    simp only [List.length_append, FixedBytes.length_bytes]
    omega
  have hselector : ¬selector ≠ f.layout.selector := by simp [hlayout, MessageLayout.selector]
  rw [parseMessage_append hwhole, if_neg hselector, readBody_padded hlayout]
  split <;> rfl

theorem parseMessage_ethWithdrawal (hlayout : f.layout = .ethWithdrawal) (receiver : Address)
    (amount : Word) (sender recipient : Address) :
    f.parseMessage (Mailbox.finalizeEthWithdrawal.selector.bytes ++ (receiver.bytes ++
        (amount.bytes ++ (sender.bytes ++ recipient.bytes)))) =
      if receiver ≠ f.l1Bridge then .error (.unauthorizedReceiver f.l1Bridge receiver)
      else f.checkSender ⟨sender, some receiver, amount.bytes ++ recipient.bytes⟩ := by
  have hwhole : 4 + (receiver.bytes ++ (amount.bytes ++ (sender.bytes ++ recipient.bytes))).length =
      f.layout.messageLength := by
    rw [hlayout]
    simp [MessageLayout.messageLength, MessageLayout.ethMessageLength]
  have hselector : ¬Mailbox.finalizeEthWithdrawal.selector ≠ f.layout.selector := by
    simp [hlayout, MessageLayout.selector]
  rw [parseMessage_append hwhole, if_neg hselector, readBody_ethWithdrawal hlayout]
  split <;> rfl

/-- What a layout spells is read. -/
theorem Spells.parseMessage_eq_ok {message : WithdrawalMessage} {amount : Option (Uint 256)}
    (hspells : f.Spells m message amount) : f.parseMessage m = .ok message := by
  cases hspells with
  | padded hlayout hlength =>
    refine (parseMessage_padded hlayout FixedBytes.zero f.l2Counterpart hlength).trans ?_
    simp [checkSender]
  | ethWithdrawal hlayout amount recipient =>
    refine (parseMessage_ethWithdrawal hlayout f.l1Bridge amount.toWord f.l2Counterpart
      recipient).trans ?_
    simp [checkSender]

/-- A misspelled message is refused for its first fault. -/
theorem Misspelled.parseMessage_eq_error {error : WithdrawalError} (hmisspelled : f.Misspelled m error) :
    f.parseMessage m = .error error := by
  cases hmisspelled with
  | length hlength => rw [parseMessage_eq, if_pos hlength]
  | selector hlength hfound => rw [parseMessage_append hlength, if_pos hfound]
  | padding hlayout hlength hpadding =>
    rw [parseMessage_padded hlayout _ _ hlength, if_pos hpadding]
  | @paddedSender _ _ sender _ hlayout hlength hsender =>
    refine (parseMessage_padded hlayout FixedBytes.zero sender hlength).trans ?_
    simp [checkSender, hsender]
  | receiver hlayout hreceiver => rw [parseMessage_ethWithdrawal hlayout, if_pos hreceiver]
  | @ethSender sender recipient amount hlayout hsender =>
    refine (parseMessage_ethWithdrawal hlayout f.l1Bridge amount sender recipient).trans ?_
    simp [checkSender, hsender]

/-- Behind the selector of a padded layout the padding decides, and then the sender. -/
theorem spells_or_misspelled_padded {selector : Selector} {payloadLength : Nat} {body : Bytes}
    (hlayout : f.layout = .padded selector payloadLength)
    (hlength : body.length = 12 + (20 + payloadLength)) :
    (∃ message amount, f.Spells (selector.bytes ++ body) message amount) ∨
      ∃ error, f.Misspelled (selector.bytes ++ body) error := by
  obtain ⟨padding, back, rfl, hback⟩ := Bytes.exists_append_of_length_eq hlength
  obtain ⟨sender, payload, rfl, hpayload⟩ := Bytes.exists_append_of_length_eq hback
  by_cases hpadding : padding = FixedBytes.zero
  case neg => exact Or.inr ⟨_, .padding hlayout hpayload hpadding⟩
  subst hpadding
  by_cases hsender : sender = f.l2Counterpart
  case neg => exact Or.inr ⟨_, .paddedSender hlayout hpayload hsender⟩
  subst hsender
  exact Or.inl ⟨_, _, .padded hlayout hpayload⟩

/-- Behind the selector of an ETH withdrawal the receiver decides, and then the sender. -/
theorem spells_or_misspelled_ethWithdrawal {body : Bytes} (hlayout : f.layout = .ethWithdrawal)
    (hlength : body.length = 20 + (32 + (20 + (20 + 0)))) :
    (∃ message amount, f.Spells (Mailbox.finalizeEthWithdrawal.selector.bytes ++ body) message amount) ∨
      ∃ error, f.Misspelled (Mailbox.finalizeEthWithdrawal.selector.bytes ++ body) error := by
  obtain ⟨receiver, paid, rfl, hpaid⟩ := Bytes.exists_append_of_length_eq hlength
  obtain ⟨amount, parties, rfl, hparties⟩ := Bytes.exists_append_of_length_eq hpaid
  obtain ⟨sender, last, rfl, hlast⟩ := Bytes.exists_append_of_length_eq hparties
  obtain ⟨recipient, back, rfl, hback⟩ := Bytes.exists_append_of_length_eq hlast
  obtain rfl : back = [] := List.length_eq_zero_iff.mp hback
  rw [List.append_nil]
  by_cases hreceiver : receiver = f.l1Bridge
  case neg => exact Or.inr ⟨_, .receiver hlayout hreceiver⟩
  subst hreceiver
  by_cases hsender : sender = f.l2Counterpart
  case neg => exact Or.inr ⟨_, .ethSender hlayout hsender⟩
  subst hsender
  have hspells := Spells.ethWithdrawal hlayout (Uint.ofWord amount) recipient
  rw [Uint.toWord_ofWord] at hspells
  exact Or.inl ⟨_, _, hspells⟩

/-- Every byte string is spelled by the layout or has a first fault. -/
theorem spells_or_misspelled (f : WithdrawalFinalizer) (m : Bytes) :
    (∃ message amount, f.Spells m message amount) ∨ ∃ error, f.Misspelled m error := by
  by_cases hlength : m.length = f.layout.messageLength
  case neg => exact Or.inr ⟨_, .length hlength⟩
  cases hlayout : f.layout with
  | padded selector payloadLength =>
    have hwhole : m.length = 4 + (12 + (20 + payloadLength)) := by
      rw [hlength, hlayout, MessageLayout.messageLength]
      omega
    obtain ⟨found, body, rfl, hbody⟩ := Bytes.exists_append_of_length_eq hwhole
    by_cases hfound : found = f.layout.selector
    case neg => exact Or.inr ⟨_, .selector (by simpa using hlength) hfound⟩
    obtain rfl : found = selector := by rw [hfound, hlayout, MessageLayout.selector]
    exact spells_or_misspelled_padded hlayout hbody
  | ethWithdrawal =>
    have hwhole : m.length = 4 + (20 + (32 + (20 + (20 + 0)))) := by
      rw [hlength, hlayout, MessageLayout.messageLength, MessageLayout.ethMessageLength]
    obtain ⟨found, body, rfl, hbody⟩ := Bytes.exists_append_of_length_eq hwhole
    by_cases hfound : found = f.layout.selector
    case neg => exact Or.inr ⟨_, .selector (by simpa using hlength) hfound⟩
    obtain rfl : found = Mailbox.finalizeEthWithdrawal.selector := by
      rw [hfound, hlayout, MessageLayout.selector]
    exact spells_or_misspelled_ethWithdrawal hlayout hbody

/-- The amount that is read out of an ETH withdrawal is the one it was spelled with; other messages name
none. -/
theorem Spells.ethAmount_eq {message : WithdrawalMessage} {amount : Option (Uint 256)}
    (hspells : f.Spells m message amount) : message.ethAmount = amount := by
  cases hspells with
  | padded => rfl
  | ethWithdrawal _ amount recipient =>
    have hlength : 32 ≤ (amount.toWord.bytes ++ recipient.bytes).length := by simp
    have hword : BitVec.ofNat 256 (Bytes.toNat amount.toWord.bytes) = amount := by
      change BitVec.ofNat 256 amount.toWord.toNat = amount
      rw [Uint.toNat_toWord amount (Nat.le_refl 256), BitVec.ofNat_toNat, BitVec.setWidth_eq]
    simp only [WithdrawalMessage.ethAmount, Option.isSome_some, hlength, and_self, if_true,
      List.take_left' amount.toWord.length_eq, hword]

/-- What is read is written back as it was. -/
theorem Spells.encode_eq {message : WithdrawalMessage} {amount : Option (Uint 256)}
    (hspells : f.Spells m message amount) : message.encode f.layout = m := by
  cases hspells with
  | padded hlayout hlength => simp [WithdrawalMessage.encode, hlayout]
  | ethWithdrawal hlayout amount recipient =>
    simp only [WithdrawalMessage.encode, hlayout, MessageLayout.selector, Option.getD_some,
      List.take_left' amount.toWord.length_eq, List.drop_left' amount.toWord.length_eq,
      List.append_assoc]

/-- `readBody`, but giving up where a part would reach behind the end of the message. -/
def readBodyWithin? (f : WithdrawalFinalizer) (m : Bytes) :
    Option (Except WithdrawalError WithdrawalMessage) :=
  match f.layout with
  | .padded _ _ => do
    let padding ← m.range? 4 16
    if padding.any (· != 0) then return .error .senderPadding
    return .ok ⟨← m.fixedRange? 16, none, ← m.range? 36 m.length⟩
  | .ethWithdrawal => do
    let receiver : Address ← m.fixedRange? 4
    if receiver ≠ f.l1Bridge then return .error (.unauthorizedReceiver f.l1Bridge receiver)
    let payload := (← m.range? 24 56) ++ (← m.range? 76 96)
    return .ok ⟨← m.fixedRange? 56, some receiver, payload⟩

/-- `parseMessage`, but giving up where a part would reach behind the end of the message. -/
def parseMessageWithin? (f : WithdrawalFinalizer) (m : Bytes) :
    Option (Except WithdrawalError WithdrawalMessage) := do
  if m.length ≠ f.layout.messageLength then
    return .error (.wrongLength f.layout.messageLength m.length)
  let found ← m.range? 0 4
  if found ≠ f.layout.selector.bytes then
    return .error (.wrongSelector f.layout.selector.bytes found)
  return (← f.readBodyWithin? m) >>= f.checkSender

theorem readBodyWithin?_eq (hlength : m.length = f.layout.messageLength) :
    f.readBodyWithin? m = some (f.readBody m) := by
  unfold readBodyWithin? readBody
  cases hlayout : f.layout with
  | padded selector payloadLength =>
    rw [hlayout, MessageLayout.messageLength] at hlength
    have hpadding : m.range? 4 16 = some ((m.drop 4).take 12) :=
      Bytes.range?_of_le (by decide) (by omega)
    have hsender : m.fixedRange? 16 = some (FixedBytes.slice m 16 : Address) :=
      Bytes.fixedRange?_of_le (by omega)
    have hpayload : m.range? 36 m.length = some (m.drop 36) := Bytes.range?_to_end (by omega)
    simp only [hpadding, hsender, hpayload, Option.bind_eq_bind, Option.bind_some]
    split <;> rfl
  | ethWithdrawal =>
    rw [hlayout, MessageLayout.messageLength, MessageLayout.ethMessageLength] at hlength
    have hreceiver : m.fixedRange? 4 = some (FixedBytes.slice m 4 : Address) :=
      Bytes.fixedRange?_of_le (by omega)
    have hamount : m.range? 24 56 = some ((m.drop 24).take 32) :=
      Bytes.range?_of_le (by decide) (by omega)
    have hrecipient : m.range? 76 96 = some ((m.drop 76).take 20) :=
      Bytes.range?_of_le (by decide) (by omega)
    have hsender : m.fixedRange? 56 = some (FixedBytes.slice m 56 : Address) :=
      Bytes.fixedRange?_of_le (by omega)
    simp only [hreceiver, hamount, hrecipient, hsender, Option.bind_eq_bind, Option.bind_some]
    split <;> rfl

/-- No part of a message is ever looked for behind its end. -/
theorem parseMessageWithin?_eq (f : WithdrawalFinalizer) (m : Bytes) :
    f.parseMessageWithin? m = some (f.parseMessage m) := by
  unfold parseMessageWithin?
  rw [parseMessage_eq]
  by_cases hlength : m.length = f.layout.messageLength
  case neg => simp [hlength]
  have hfour : 4 ≤ m.length := by
    rw [hlength]
    cases f.layout with
    | padded selector payloadLength => exact Nat.le_add_right_of_le (by decide)
    | ethWithdrawal => decide
  have hfound : m.range? 0 4 = some (m.take 4) := Bytes.range?_of_le (by decide) hfour
  simp only [hlength, hfound, readBodyWithin?_eq hlength, Option.bind_eq_bind, Option.bind_some,
    ne_eq, not_true, if_false]
  split <;> rfl

/-- A message is accepted exactly if it is what its layout spells for the bridge pair; what it is read as
then names the amount that was spelled and is written back as it was. Every other message is refused for
the first of its faults, and no part is ever looked for behind the end of a message. -/
theorem parseMessage_decides_spelling (f : WithdrawalFinalizer) (m : Bytes) :
    (∀ message, f.parseMessage m = .ok message ↔
      ∃ amount, f.Spells m message amount ∧ message.ethAmount = amount ∧
        message.encode f.layout = m) ∧
    (∀ error, f.parseMessage m = .error error ↔ f.Misspelled m error) ∧
    f.parseMessageWithin? m = some (f.parseMessage m) := by
  refine ⟨fun message => ⟨?_, ?_⟩, fun error => ⟨?_, Misspelled.parseMessage_eq_error⟩,
    parseMessageWithin?_eq f m⟩
  · intro hok
    rcases f.spells_or_misspelled m with ⟨spelled, amount, hspells⟩ | ⟨error, hmisspelled⟩
    · obtain rfl : spelled = message := Except.ok.inj (hspells.parseMessage_eq_ok.symm.trans hok)
      exact ⟨amount, hspells, hspells.ethAmount_eq, hspells.encode_eq⟩
    · cases hmisspelled.parseMessage_eq_error.symm.trans hok
  · rintro ⟨amount, hspells, _⟩
    exact hspells.parseMessage_eq_ok
  · intro herror
    rcases f.spells_or_misspelled m with ⟨message, amount, hspells⟩ | ⟨first, hmisspelled⟩
    · cases hspells.parseMessage_eq_ok.symm.trans herror
    · obtain rfl : first = error :=
        Except.error.inj (hmisspelled.parseMessage_eq_error.symm.trans herror)
      exact hmisspelled

end RollupBridge.WithdrawalFinalizer
