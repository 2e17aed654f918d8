import RollupBridge.Counterpart
import RollupBridge.Proofs.Abi.RoundTrip
import RollupBridge.Proofs.Deployment

namespace RollupBridge

variable {H : Bytes → Word} {l1Bridge l1Bridge' governor governor' : Address}
  {hashes hashes' : BridgeContractHashes}

theorem setUpCalldata_inj {tokenProxyHash tokenProxyHash' : BytecodeHash} :
    setUpCalldata l1Bridge tokenProxyHash governor = setUpCalldata l1Bridge' tokenProxyHash' governor' ↔
      l1Bridge = l1Bridge' ∧ tokenProxyHash = tokenProxyHash' ∧ governor = governor' := by
  refine (Abi.Function.call_inj (by decide) ?_).trans ?_
  · simp [Abi.encode, L2Bridge.setUp, Abi.length_layout, Abi.parts, Abi.Ty.part, Abi.tails, Uint.size]
  · constructor
    · intro hargs
      cases tokenProxyHash
      cases tokenProxyHash'
      cases hargs
      exact ⟨rfl, rfl, rfl⟩
    · rintro ⟨rfl, rfl, rfl⟩
      rfl

theorem length_setUpCalldata (l1Bridge : Address) (tokenProxyHash : BytecodeHash) (governor : Address) :
    (setUpCalldata l1Bridge tokenProxyHash governor).length = 100 := by
  simp [setUpCalldata, Abi.Function.call, Abi.encode, L2Bridge.setUp, Abi.length_layout, Abi.parts,
    Abi.Ty.part, Abi.tails]

/-- The input of the proxy's constructor says what it was made from. -/
theorem proxyConstructorInput_setUp_inj {implementation implementation' admin admin' : Address}
    {tokenProxyHash tokenProxyHash' : BytecodeHash} :
    proxyConstructorInput implementation admin (setUpCalldata l1Bridge tokenProxyHash governor) =
        proxyConstructorInput implementation' admin'
          (setUpCalldata l1Bridge' tokenProxyHash' governor') ↔
      implementation = implementation' ∧ admin = admin' ∧
        l1Bridge = l1Bridge' ∧ tokenProxyHash = tokenProxyHash' ∧ governor = governor' := by
  refine (Abi.encode_inj (by decide) ?_).trans ?_
  · simp [Abi.encode, Abi.length_layout, Abi.parts, Abi.Ty.part, Abi.tails, Abi.fill,
      length_setUpCalldata, Uint.size]
  · rw [← setUpCalldata_inj]
    simp

theorem encode_address_inj {account account' : Address} :
    Abi.encode [.address] (account, ()) = Abi.encode [.address] (account', ()) ↔ account = account' := by
  refine (Abi.encode_inj (by decide) ?_).trans ?_
  · simp [Abi.encode, Abi.length_layout, Abi.parts, Abi.Ty.part, Abi.tails, Uint.size]
  · simp

namespace BridgeL2Addresses

/-- The deployment of the implementation, by the alias of the L1 bridge. -/
def implementationDeployment (l1Bridge : Address) (hashes : BridgeContractHashes) : Deployment :=
  .create (l1Bridge.applyAlias .contract) hashes.implementation []

/-- The deployment of the proxy, by the alias of the L1 bridge. -/
def proxyDeployment (H : Bytes → Word) (l1Bridge governor : Address) (hashes : BridgeContractHashes) :
    Deployment :=
  .create (l1Bridge.applyAlias .contract) hashes.proxy
    (proxyConstructorInput ((implementationDeployment l1Bridge hashes).address H) governor
      (setUpCalldata l1Bridge hashes.tokenProxy governor))

/-- The deployment of the standard token, by the proxy. -/
def standardTokenDeployment (H : Bytes → Word) (l1Bridge governor : Address)
    (hashes : BridgeContractHashes) : Deployment :=
  .create ((proxyDeployment H l1Bridge governor hashes).address H) hashes.standardToken []

/-- The deployment of the beacon of the standard token, by the proxy. -/
def tokenBeaconDeployment (H : Bytes → Word) (l1Bridge governor : Address)
    (hashes : BridgeContractHashes) : Deployment :=
  .create ((proxyDeployment H l1Bridge governor hashes).address H) hashes.tokenBeacon
    (Abi.encode [.address] ((standardTokenDeployment H l1Bridge governor hashes).address H, ()))

/-- The deployments whose preimages and inputs are hashed for the addresses. -/
def deployments (H : Bytes → Word) (l1Bridge governor : Address) (hashes : BridgeContractHashes) :
    List Deployment :=
  [implementationDeployment l1Bridge hashes, proxyDeployment H l1Bridge governor hashes,
    standardTokenDeployment H l1Bridge governor hashes, tokenBeaconDeployment H l1Bridge governor hashes]

theorem implementationDeployment_mem (H : Bytes → Word) (l1Bridge governor : Address)
    (hashes : BridgeContractHashes) :
    implementationDeployment l1Bridge hashes ∈ deployments H l1Bridge governor hashes := by
  simp [deployments]

theorem proxyDeployment_mem (H : Bytes → Word) (l1Bridge governor : Address)
    (hashes : BridgeContractHashes) :
    proxyDeployment H l1Bridge governor hashes ∈ deployments H l1Bridge governor hashes := by
  simp [deployments]

theorem standardTokenDeployment_mem (H : Bytes → Word) (l1Bridge governor : Address)
    (hashes : BridgeContractHashes) :
    standardTokenDeployment H l1Bridge governor hashes ∈ deployments H l1Bridge governor hashes := by
  simp [deployments]

theorem tokenBeaconDeployment_mem (H : Bytes → Word) (l1Bridge governor : Address)
    (hashes : BridgeContractHashes) :
    tokenBeaconDeployment H l1Bridge governor hashes ∈ deployments H l1Bridge governor hashes := by
  simp [deployments]

/-- The addresses are those of the deployments. -/
theorem compute_eq (H : Bytes → Word) (l1Bridge governor : Address) (hashes : BridgeContractHashes) :
    compute H l1Bridge governor hashes =
      { implementation := (implementationDeployment l1Bridge hashes).address H
        proxy := (proxyDeployment H l1Bridge governor hashes).address H
        standardToken := (standardTokenDeployment H l1Bridge governor hashes).address H
        tokenBeacon := (tokenBeaconDeployment H l1Bridge governor hashes).address H } := rfl

/-- The addresses depend on nothing but the hashes of these preimages and inputs. -/
theorem compute_congr {H' : Bytes → Word}
    (hsame : ∀ d ∈ deployments H l1Bridge governor hashes,
      H (d.preimage H) = H' (d.preimage H) ∧ H d.constructorInput = H' d.constructorInput) :
    compute H l1Bridge governor hashes = compute H' l1Bridge governor hashes := by
  have haddress : ∀ d ∈ deployments H l1Bridge governor hashes, d.address H = d.address H' :=
    fun d hd => Deployment.address_congr (hsame d hd).1 (hsame d hd).2
  have himplementation := haddress _ (implementationDeployment_mem ..)
  have hproxy := haddress _ (proxyDeployment_mem ..)
  have htoken := haddress _ (standardTokenDeployment_mem ..)
  have hbeacon := haddress _ (tokenBeaconDeployment_mem ..)
  have hproxies : proxyDeployment H l1Bridge governor hashes =
      proxyDeployment H' l1Bridge governor hashes := by
    rw [proxyDeployment, himplementation, ← proxyDeployment]
  have htokens : standardTokenDeployment H l1Bridge governor hashes =
      standardTokenDeployment H' l1Bridge governor hashes := by
    rw [standardTokenDeployment, hproxy, hproxies, ← standardTokenDeployment]
  have hbeacons : tokenBeaconDeployment H l1Bridge governor hashes =
      tokenBeaconDeployment H' l1Bridge governor hashes := by
    rw [tokenBeaconDeployment, hproxy, htoken, hproxies, htokens, ← tokenBeaconDeployment]
  rw [compute_eq, compute_eq, himplementation, hproxy, htoken, hbeacon, hproxies, htokens, hbeacons]

/-- The proxy's address binds who deploys it and what stands behind it. The proxy's deployment has the
implementation's address in its input, so the first collision can be one of either. -/
theorem proxy_binding
    (hproxy : (compute H l1Bridge governor hashes).proxy =
      (compute H l1Bridge' governor' hashes').proxy) :
    (l1Bridge = l1Bridge' ∧ governor = governor' ∧ hashes.implementation = hashes'.implementation ∧
        hashes.proxy = hashes'.proxy ∧ hashes.tokenProxy = hashes'.tokenProxy) ∨
      Deployment.Collide H (deployments H l1Bridge governor hashes)
        (deployments H l1Bridge' governor' hashes') := by
  refine (Deployment.eq_or_collide_of_address_eq (proxyDeployment_mem ..) (proxyDeployment_mem ..)
    hproxy).elim (fun hsame => ?_) Or.inr
  obtain ⟨_, hproxyHash, hinput, _⟩ := Deployment.mk.inj hsame
  obtain ⟨himplementation, _, hl1Bridge, htokenProxy, hgovernor⟩ :=
    proxyConstructorInput_setUp_inj.mp hinput
  refine (Deployment.eq_or_collide_of_address_eq (implementationDeployment_mem ..)
    (implementationDeployment_mem ..) himplementation).imp_left fun hsame => ?_
  exact ⟨hl1Bridge, hgovernor, (Deployment.mk.inj hsame).2.1, hproxyHash, htokenProxy⟩

/-- The address of the token beacon binds the proxy's address and the token bytecodes besides. -/
theorem tokenBeacon_binding
    (hbeacon : (compute H l1Bridge governor hashes).tokenBeacon =
      (compute H l1Bridge' governor' hashes').tokenBeacon) :
    ((compute H l1Bridge governor hashes).proxy = (compute H l1Bridge' governor' hashes').proxy ∧
        hashes.standardToken = hashes'.standardToken ∧ hashes.tokenBeacon = hashes'.tokenBeacon) ∨
      Deployment.Collide H (deployments H l1Bridge governor hashes)
        (deployments H l1Bridge' governor' hashes') := by
  refine (Deployment.eq_or_collide_of_address_eq (tokenBeaconDeployment_mem ..)
    (tokenBeaconDeployment_mem ..) hbeacon).elim (fun hsame => ?_) Or.inr
  obtain ⟨hproxy, hbeaconHash, hinput, _⟩ := Deployment.mk.inj hsame
  refine (Deployment.eq_or_collide_of_address_eq (standardTokenDeployment_mem ..)
    (standardTokenDeployment_mem ..) (encode_address_inj.mp hinput)).imp_left fun hsame => ?_
  exact ⟨hproxy, (Deployment.mk.inj hsame).2.1, hbeaconHash⟩

/-- The addresses of a counterpart bind what they are computed from. Equal addresses of the proxy are
those of one L1 bridge, one governor and the same bytecodes behind the proxy, and equal addresses of the
token beacon are those of equal inputs throughout, unless a string hashed for the one computation and a
different one hashed for the other collide. -/
theorem compute_binding (H : Bytes → Word) (l1Bridge l1Bridge' governor governor' : Address)
    (hashes hashes' : BridgeContractHashes) :
    let addresses := compute H l1Bridge governor hashes
    let addresses' := compute H l1Bridge' governor' hashes'
    let collide := Deployment.Collide H (deployments H l1Bridge governor hashes)
      (deployments H l1Bridge' governor' hashes')
    (addresses.proxy = addresses'.proxy →
      (l1Bridge = l1Bridge' ∧ governor = governor' ∧ hashes.implementation = hashes'.implementation ∧
        hashes.proxy = hashes'.proxy ∧ hashes.tokenProxy = hashes'.tokenProxy) ∨ collide) ∧
    (addresses.tokenBeacon = addresses'.tokenBeacon →
      (l1Bridge = l1Bridge' ∧ governor = governor' ∧ hashes = hashes') ∨ collide) := by
  refine ⟨proxy_binding, ?_⟩
  intro hbeacon
  refine (tokenBeacon_binding hbeacon).elim ?_ Or.inr
  rintro ⟨hproxy, hstandardToken, htokenBeacon⟩
  refine (proxy_binding hproxy).imp_left ?_
  rintro ⟨hl1Bridge, hgovernor, himplementation, hproxyHash, htokenProxy⟩
  refine ⟨hl1Bridge, hgovernor, ?_⟩
  cases hashes
  cases hashes'
  cases himplementation
  cases hproxyHash
  cases htokenProxy
  cases hstandardToken
  cases htokenBeacon
  rfl

/-- The bytecode hash that is all zero, for every contract. -/
def blank : BridgeContractHashes :=
  let hash : BytecodeHash := ⟨FixedBytes.zero⟩
  ⟨hash, hash, hash, hash, hash⟩

/-- A hash function that tells no strings apart makes the same addresses for all L1 bridges, and the
strings collide. -/
theorem compute_binding_of_constant :
    let H : Bytes → Word := fun _ => FixedBytes.zero
    let addresses := compute H FixedBytes.zero FixedBytes.zero blank
    let addresses' := compute H Address.aliasOffset FixedBytes.zero blank
    addresses.proxy = addresses'.proxy ∧ addresses.tokenBeacon = addresses'.tokenBeacon ∧
      Deployment.Collide H (deployments H FixedBytes.zero FixedBytes.zero blank)
        (deployments H Address.aliasOffset FixedBytes.zero blank) := by
  have hproxy : (compute (fun _ => FixedBytes.zero) FixedBytes.zero FixedBytes.zero blank).proxy =
      (compute (fun _ => FixedBytes.zero) Address.aliasOffset FixedBytes.zero blank).proxy := by rfl
  refine ⟨hproxy, by rfl, ?_⟩
  refine ((compute_binding _ _ _ _ _ _ _).1 hproxy).resolve_left ?_
  rintro ⟨hl1Bridge, _⟩
  exact absurd hl1Bridge (by decide)

end BridgeL2Addresses

end RollupBridge
