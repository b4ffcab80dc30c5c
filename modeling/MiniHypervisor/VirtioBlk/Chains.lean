import MiniHypervisor.VirtioBlk.Atomicity

/-!
# Descriptor chains

A request of the guest is a chain of three descriptors: a header, a data buffer and a status byte.
The chain lies in the descriptor table of the queue, or in an indirect table that a descriptor of
the queue names.  The two tables are walked by separate functions
(`src/pci/virtio_blk_indirect.rs`), and the flags and the length of the data buffer are left to the
call that serves the request.  Both walks accept three different entries of one table, and what they
return depends on these entries alone.

A data buffer that is itself flagged as indirect is refused by the indirect walk and passes the
direct one; the call then refuses it for its flags.
-/

namespace MiniHypervisor.VirtioBlk

open Bytes Control Memory

/-! ### Entries of a table -/

/-- The entry `index` of a descriptor table in guest memory. -/
def HoldsDescriptor (memory : GuestMemory) (table : UInt64) (index : UInt16)
    (descriptor : Descriptor) : Prop :=
  table.toNat + 16 * index.toNat < 2 ^ 64 ∧
    ∃ bytes, memory.read (table.toNat + 16 * index.toNat) 16 = .ok bytes ∧
      Descriptor.ofBytes bytes = descriptor

section Entries

variable {memory : GuestMemory} {table : UInt64} {index : UInt16} {descriptor d d' : Descriptor}

theorem HoldsDescriptor.unique (h : HoldsDescriptor memory table index d)
    (h' : HoldsDescriptor memory table index d') : d = d' := by
  obtain ⟨-, bytes, hread, rfl⟩ := h
  obtain ⟨-, bytes', hread', rfl⟩ := h'
  rw [hread] at hread'
  rw [Except.ok.inj hread']

theorem VirtioBlkDevice.readDescriptor_eq_ok {device : VirtioBlkDevice} :
    device.readDescriptor memory index = .ok descriptor ↔
      HoldsDescriptor memory device.queueDesc index descriptor := by
  simp only [readDescriptor, HoldsDescriptor, bind_eq_ok, liftDevice_eq_ok, liftMemory_eq_ok,
    checkedAdd_eq_ok, pure, Except.pure, Except.ok.injEq]
  constructor
  · rintro ⟨_, ⟨hlt, rfl⟩, bytes, hread, rfl⟩
    exact ⟨hlt, bytes, hread, rfl⟩
  · rintro ⟨hlt, bytes, hread, rfl⟩
    exact ⟨_, ⟨hlt, rfl⟩, bytes, hread, rfl⟩

theorem VirtioBlkDevice.readIndirectDescriptor_eq_ok {entries : UInt32} :
    readIndirectDescriptor memory table entries index = .ok descriptor ↔
      index.toNat < entries.toNat ∧ HoldsDescriptor memory table index descriptor := by
  have hlt : ¬ entries ≤ index.toUInt32 ↔ index.toNat < entries.toNat := by
    rw [UInt32.le_iff_toNat_le, UInt16.toNat_toUInt32, not_le]
  have hsize : descriptorSize.toNat = 16 := rfl
  simp only [readIndirectDescriptor, HoldsDescriptor, bind_eq_ok, liftDevice_eq_ok,
    liftMemory_eq_ok, rejectIf_eq_ok, checkedAdd_eq_ok, hlt, hsize, pure, Except.pure,
    Except.ok.injEq]
  constructor
  · rintro ⟨_, hindex, _, ⟨hlt, rfl⟩, bytes, hread, rfl⟩
    exact ⟨hindex, hlt, bytes, hread, rfl⟩
  · rintro ⟨hindex, hlt, bytes, hread, rfl⟩
    exact ⟨(), hindex, _, ⟨hlt, rfl⟩, bytes, hread, rfl⟩

end Entries

/-! ### Chains in a table -/

/-- Three different entries of a table with `entries` entries, each naming the next one, from the
entry `first` on. -/
structure StoresChain (memory : GuestMemory) (table : UInt64) (entries : ℕ) (first : UInt16)
    (header data status : Descriptor) : Prop where
  holds_header : HoldsDescriptor memory table first header
  holds_data : HoldsDescriptor memory table header.next data
  holds_status : HoldsDescriptor memory table data.next status
  header_lt : first.toNat < entries
  data_lt : header.next.toNat < entries
  status_lt : data.next.toNat < entries
  data_ne_header : header.next ≠ first
  status_ne_header : data.next ≠ first
  status_ne_data : data.next ≠ header.next

theorem StoresChain.descriptors_eq {memory : GuestMemory} {table : UInt64} {entries : ℕ}
    {first : UInt16} {header data status header' data' status' : Descriptor}
    (h : StoresChain memory table entries first header data status)
    (h' : StoresChain memory table entries first header' data' status') :
    header' = header ∧ data' = data ∧ status' = status := by
  obtain rfl := h'.holds_header.unique h.holds_header
  obtain rfl := h'.holds_data.unique h.holds_data
  exact ⟨rfl, rfl, h'.holds_status.unique h.holds_status⟩

namespace VirtioBlkDevice

/-- What both walks check about the descriptors: the flags and lengths of the header and the status
byte. -/
structure ResolvedRequestChain.WellFormed (chain : ResolvedRequestChain) : Prop where
  dataIndex_eq : chain.dataIndex = chain.header.next
  headerFlags : chain.header.flags = virtqDescFNext
  headerLength : 16 ≤ chain.header.length.toNat
  statusFlags : chain.status.flags = virtqDescFWrite
  statusLength : 1 ≤ chain.status.length.toNat

/-- A table that a descriptor of the queue names, with the feature negotiated. -/
structure IndirectTable (device : VirtioBlkDevice) (outer : Descriptor) : Prop where
  negotiated : device.driverFeatures &&& virtioRingFIndirectDesc ≠ 0
  flags : outer.flags = virtqDescFIndirect
  length_ge : 48 ≤ outer.length.toNat
  length_mod : outer.length.toNat % 16 = 0
  entries_le : outer.length.toNat / 16 ≤ 0x10000

variable {device : VirtioBlkDevice} {memory : GuestMemory} {head : UInt16}
  {header data status outer : Descriptor} {chain : ResolvedRequestChain}

theorem ResolvedRequestChain.WellFormed.mk_eq (h : chain.WellFormed) :
    ⟨chain.header, chain.data, chain.header.next, chain.status⟩ = chain := by
  rw [← h.dataIndex_eq]

/-- **The direct walk** accepts the well-formed chains of the descriptor table. -/
theorem resolveDirectRequestChain_eq_ok (hhead : head.toNat < device.queueSize.toNat)
    (hheader : HoldsDescriptor memory device.queueDesc head header) :
    device.resolveDirectRequestChain memory head header = .ok chain ↔
      StoresChain memory device.queueDesc device.queueSize.toNat head chain.header chain.data
        chain.status ∧ chain.header = header ∧ chain.WellFormed := by
  simp only [resolveDirectRequestChain, bind_eq_ok, liftDevice_eq_ok, rejectIf_eq_ok,
    requireFlags_eq_ok, requireLength_eq_ok, ensureDescriptorIndex_eq_ok, readDescriptor_eq_ok,
    not_or, pure, Except.pure, Except.ok.injEq]
  constructor
  · rintro ⟨_, hflags, _, hlength, _, hdata, _, hdataNe, data, hholdsData, _, hstatus, _, hstatusNe,
      status, hholdsStatus, _, hstatusFlags, _, hstatusLength, rfl⟩
    exact ⟨⟨hheader, hholdsData, hholdsStatus, hhead, hdata, hstatus, hdataNe, hstatusNe.1,
      hstatusNe.2⟩, rfl, rfl, hflags, hlength, hstatusFlags, hstatusLength⟩
  · rintro ⟨hstored, rfl, hformed⟩
    exact ⟨(), hformed.headerFlags, (), hformed.headerLength, (), hstored.data_lt, (),
      hstored.data_ne_header, chain.data, hstored.holds_data, (), hstored.status_lt, (),
      ⟨hstored.status_ne_header, hstored.status_ne_data⟩, chain.status, hstored.holds_status, (),
      hformed.statusFlags, (), hformed.statusLength, hformed.mk_eq⟩

theorem indirectTable_iff :
    device.IndirectTable outer ↔
      device.driverFeatures &&& virtioRingFIndirectDesc ≠ 0 ∧ outer.flags = virtqDescFIndirect ∧
      ¬ (outer.length < minRequestDescriptors * descriptorSize ∨
        outer.length % descriptorSize ≠ 0) ∧
      ¬ maxIndirectDescriptors < outer.length / descriptorSize := by
  have hmin : (minRequestDescriptors * descriptorSize).toNat = 48 := rfl
  have hsize : descriptorSize.toNat = 16 := rfl
  have hmax : maxIndirectDescriptors.toNat = 0x10000 := rfl
  have hzero : outer.length % descriptorSize = 0 ↔ outer.length.toNat % 16 = 0 := by
    rw [← UInt32.toNat_inj, UInt32.toNat_mod, hsize]
    rfl
  rw [not_or, not_not, hzero, UInt32.lt_iff_toNat_lt, UInt32.lt_iff_toNat_lt, UInt32.toNat_div,
    hmin, hsize, hmax, not_lt, not_lt]
  constructor
  · rintro ⟨hnegotiated, hflags, hge, hmod, hle⟩
    exact ⟨hnegotiated, hflags, ⟨hge, hmod⟩, hle⟩
  · rintro ⟨hnegotiated, hflags, ⟨hge, hmod⟩, hle⟩
    exact ⟨hnegotiated, hflags, hge, hmod, hle⟩

/-- **The indirect walk** accepts the well-formed chains of an indirect table that start at its
first entry and whose data buffer is not flagged as indirect. -/
theorem resolveIndirectRequestChain_eq_ok :
    device.resolveIndirectRequestChain memory head outer = .ok chain ↔
      device.IndirectTable outer ∧
        StoresChain memory outer.address (outer.length.toNat / 16) 0 chain.header chain.data
          chain.status ∧ chain.WellFormed ∧ chain.data.flags &&& virtqDescFIndirect = 0 := by
  have hentries : (outer.length / descriptorSize).toNat = outer.length.toNat / 16 :=
    UInt32.toNat_div ..
  rw [indirectTable_iff]
  simp only [resolveIndirectRequestChain, bind_eq_ok, liftDevice_eq_ok, rejectIf_eq_ok,
    requireFlags_eq_ok, requireLength_eq_ok, readIndirectDescriptor_eq_ok, rejectNestedIndirect,
    hentries, pure, Except.pure, Except.ok.injEq]
  constructor
  · rintro ⟨_, hnegotiated, _, houter, _, hlength, _, hmax, header, ⟨hheaderLt, hheader⟩, _, -, _,
      hflags, _, hlengthHeader, _, hdataNe, data, ⟨hdataLt, hdata⟩, _, hnested, _, hstatusNe,
      status, ⟨hstatusLt, hstatus⟩, _, -, _, hstatusFlags, _, hstatusLength, rfl⟩
    rw [not_or] at hstatusNe
    exact ⟨⟨hnegotiated, houter, hlength, hmax⟩, ⟨hheader, hdata, hstatus, hheaderLt, hdataLt,
      hstatusLt, hdataNe, hstatusNe.1, hstatusNe.2⟩, ⟨rfl, hflags, hlengthHeader, hstatusFlags,
      hstatusLength⟩, not_not.mp hnested⟩
  · rintro ⟨⟨hnegotiated, houter, hlength, hmax⟩, hstored, hformed, hnested⟩
    have hheaderFlags : ¬ chain.header.flags &&& virtqDescFIndirect ≠ 0 := by
      rw [hformed.headerFlags]
      decide
    have hstatusFlags : ¬ chain.status.flags &&& virtqDescFIndirect ≠ 0 := by
      rw [hformed.statusFlags]
      decide
    exact ⟨(), hnegotiated, (), houter, (), hlength, (), hmax, chain.header,
      ⟨hstored.header_lt, hstored.holds_header⟩, (), hheaderFlags, (), hformed.headerFlags, (),
      hformed.headerLength, (), hstored.data_ne_header, chain.data,
      ⟨hstored.data_lt, hstored.holds_data⟩, (), not_not.mpr hnested, (),
      not_or.mpr ⟨hstored.status_ne_header, hstored.status_ne_data⟩, chain.status,
      ⟨hstored.status_lt, hstored.holds_status⟩, (), hstatusFlags, (), hformed.statusFlags, (),
      hformed.statusLength, hformed.mk_eq⟩

/-- The resolution of a chain: the descriptor at the head decides which table is walked. -/
theorem resolveRequestChain_eq_ok (hhead : head.toNat < device.queueSize.toNat) :
    device.resolveRequestChain memory head = .ok chain ↔
      (StoresChain memory device.queueDesc device.queueSize.toNat head chain.header chain.data
        chain.status ∧ chain.WellFormed) ∨
      ∃ outer, HoldsDescriptor memory device.queueDesc head outer ∧ device.IndirectTable outer ∧
        StoresChain memory outer.address (outer.length.toNat / 16) 0 chain.header chain.data
          chain.status ∧ chain.WellFormed ∧ chain.data.flags &&& virtqDescFIndirect = 0 := by
  simp only [resolveRequestChain, bind_eq_ok, readDescriptor_eq_ok]
  constructor
  · rintro ⟨outer, houter, hresolve⟩
    split_ifs at hresolve with hindirect
    · exact .inr ⟨outer, houter, resolveIndirectRequestChain_eq_ok.mp hresolve⟩
    · obtain ⟨hstored, -, hformed⟩ := (resolveDirectRequestChain_eq_ok hhead houter).mp hresolve
      exact .inl ⟨hstored, hformed⟩
  · rintro (⟨hstored, hformed⟩ | ⟨outer, houter, htable, hrest⟩)
    · refine ⟨chain.header, hstored.holds_header, ?_⟩
      rw [if_neg (by rw [hformed.headerFlags]; decide)]
      exact (resolveDirectRequestChain_eq_ok hhead hstored.holds_header).mpr
        ⟨hstored, rfl, hformed⟩
    · refine ⟨outer, houter, ?_⟩
      rw [if_pos (by rw [htable.flags]; decide)]
      exact resolveIndirectRequestChain_eq_ok.mpr ⟨htable, hrest⟩

/-! ### Accepted requests -/

/-- The chain of an accepted request: three different entries of the descriptor table, or of an
indirect table with the feature negotiated, with exactly the flags that the type of the request asks
for and buffers that are large enough. -/
structure SoundChain (device : VirtioBlkDevice) (memory : GuestMemory) (head : UInt16)
    (requestType : UInt32) (chain : ResolvedRequestChain) : Prop where
  stored : StoresChain memory device.queueDesc device.queueSize.toNat head chain.header chain.data
      chain.status ∨
    ∃ outer, HoldsDescriptor memory device.queueDesc head outer ∧ device.IndirectTable outer ∧
      StoresChain memory outer.address (outer.length.toNat / 16) 0 chain.header chain.data
        chain.status
  wellFormed : chain.WellFormed
  requestType_eq : requestType = virtioBlkTIn ∨ requestType = virtioBlkTOut
  dataFlags : chain.data.flags =
    if requestType = virtioBlkTIn then virtqDescFNext ||| virtqDescFWrite else virtqDescFNext
  dataLength_pos : 0 < chain.data.length.toNat
  dataLength_sectors : chain.data.length.toNat % 512 = 0

theorem soundChain_of_acceptRequest {r : AcceptedRequest}
    (hresolve : device.resolveRequestChain memory head = .ok chain)
    (haccept : device.acceptRequest memory = .ok r) (hr : r.head = head) :
    SoundChain device memory head r.requestType chain := by
  subst hr
  obtain ⟨chain', header, hreads, hchecks⟩ := acceptRequest_eq_ok.mp haccept
  obtain rfl : chain = chain' := Except.ok.inj (hresolve.symm.trans hreads.chain_eq)
  obtain ⟨-, hpos, hsectors, -⟩ := requestBackingRange_eq_ok.mp hreads.backing
  rcases (resolveRequestChain_eq_ok hreads.head_lt).mp hresolve with
    ⟨hstored, hformed⟩ | ⟨outer, houter, htable, hstored, hformed, -⟩
  · exact ⟨.inl hstored, hformed, hchecks.requestType_cases, hchecks.dataFlags, hpos, hsectors⟩
  · exact ⟨.inr ⟨outer, houter, htable, hstored⟩, hformed, hchecks.requestType_cases,
      hchecks.dataFlags, hpos, hsectors⟩

/-! ### Two layouts of one chain -/

/-- A chain in the descriptor table is resolved to its descriptors, if its header is not flagged as
indirect. -/
theorem resolve_of_stored
    (h : StoresChain memory device.queueDesc device.queueSize.toNat head header data status)
    (hheader : header.flags &&& virtqDescFIndirect = 0) :
    device.resolveRequestChain memory head = .ok chain ↔
      (chain.header = header ∧ chain.data = data ∧ chain.status = status) ∧ chain.WellFormed := by
  rw [resolveRequestChain_eq_ok h.header_lt]
  constructor
  · rintro (⟨hstored, hformed⟩ | ⟨outer, houter, htable, -⟩)
    · exact ⟨h.descriptors_eq hstored, hformed⟩
    · rw [h.holds_header.unique houter, htable.flags] at hheader
      exact absurd hheader (by decide)
  · rintro ⟨⟨rfl, rfl, rfl⟩, hformed⟩
    exact .inl ⟨h, hformed⟩

/-- A chain in an indirect table is resolved to its descriptors, if its data buffer is not flagged
as indirect. -/
theorem resolve_of_stored_indirect (hhead : head.toNat < device.queueSize.toNat)
    (houter : HoldsDescriptor memory device.queueDesc head outer)
    (htable : device.IndirectTable outer)
    (h : StoresChain memory outer.address (outer.length.toNat / 16) 0 header data status) :
    device.resolveRequestChain memory head = .ok chain ↔
      (chain.header = header ∧ chain.data = data ∧ chain.status = status) ∧ chain.WellFormed ∧
        data.flags &&& virtqDescFIndirect = 0 := by
  rw [resolveRequestChain_eq_ok hhead]
  constructor
  · rintro (⟨hstored, hformed⟩ | ⟨outer', houter', -, hstored, hformed, hnested⟩)
    · have hflags := htable.flags
      rw [houter.unique hstored.holds_header, hformed.headerFlags] at hflags
      exact absurd hflags (by decide)
    · obtain rfl := houter'.unique houter
      obtain ⟨hheader, rfl, hstatus⟩ := h.descriptors_eq hstored
      exact ⟨⟨hheader, rfl, hstatus⟩, hformed, hnested⟩
  · rintro ⟨⟨rfl, rfl, rfl⟩, hformed, hnested⟩
    exact .inr ⟨outer, houter, htable, h, hformed, hnested⟩

theorem resolve_indirect_iff_direct {device' : VirtioBlkDevice} {memory' : GuestMemory}
    {head' : UInt16}
    (hdirect : StoresChain memory device.queueDesc device.queueSize.toNat head header data status)
    (hhead : head'.toNat < device'.queueSize.toNat)
    (houter : HoldsDescriptor memory' device'.queueDesc head' outer)
    (htable : device'.IndirectTable outer)
    (hindirect : StoresChain memory' outer.address (outer.length.toNat / 16) 0 header data status) :
    device'.resolveRequestChain memory' head' = .ok chain ↔
      device.resolveRequestChain memory head = .ok chain ∧
        header.flags &&& virtqDescFIndirect = 0 ∧ data.flags &&& virtqDescFIndirect = 0 := by
  rw [resolve_of_stored_indirect hhead houter htable hindirect]
  constructor
  · rintro ⟨hsame, hformed, hnested⟩
    have hheader : header.flags &&& virtqDescFIndirect = 0 := by
      rw [← hsame.1, hformed.headerFlags]
      decide
    exact ⟨(resolve_of_stored hdirect hheader).mpr ⟨hsame, hformed⟩, hheader, hnested⟩
  · rintro ⟨hresolve, hheader, hnested⟩
    obtain ⟨hsame, hformed⟩ := (resolve_of_stored hdirect hheader).mp hresolve
    exact ⟨hsame, hformed, hnested⟩

/-- **Chains are resolved soundly, in bounds and independently of their layout.** The chain of an
accepted request is sound.  If a direct and an indirect table hold the same three descriptors, then
what the two resolutions return is the same, and the indirect one succeeds exactly when the direct
one does, unless a descriptor before the last one is flagged as indirect itself. -/
theorem resolved_chains_sound_and_layout_independent :
    (∀ (device : VirtioBlkDevice) (memory : GuestMemory) (head : UInt16)
        (chain : ResolvedRequestChain) (r : AcceptedRequest),
      head.toNat < device.queueSize.toNat → device.resolveRequestChain memory head = .ok chain →
      device.acceptRequest memory = .ok r → r.head = head →
      device.SoundChain memory head r.requestType chain) ∧
    ∀ (device device' : VirtioBlkDevice) (direct indirect : GuestMemory) (head head' : UInt16)
        (outer header data status : Descriptor),
      StoresChain direct device.queueDesc device.queueSize.toNat head header data status →
      head'.toNat < device'.queueSize.toNat →
      HoldsDescriptor indirect device'.queueDesc head' outer → device'.IndirectTable outer →
      StoresChain indirect outer.address (outer.length.toNat / 16) 0 header data status →
      (∀ chain chain', device.resolveRequestChain direct head = .ok chain →
        device'.resolveRequestChain indirect head' = .ok chain' → chain = chain') ∧
      ∀ chain, device'.resolveRequestChain indirect head' = .ok chain ↔
        device.resolveRequestChain direct head = .ok chain ∧
          header.flags &&& virtqDescFIndirect = 0 ∧ data.flags &&& virtqDescFIndirect = 0 := by
  refine ⟨fun device memory head chain r _ => soundChain_of_acceptRequest, ?_⟩
  intro device device' direct indirect head head' outer header data status hdirect hhead houter
    htable hindirect
  refine ⟨fun chain chain' hresolve hresolve' => ?_,
    fun chain => resolve_indirect_iff_direct hdirect hhead houter htable hindirect⟩
  have hsame := (resolve_indirect_iff_direct hdirect hhead houter htable hindirect).mp hresolve'
  exact Except.ok.inj (hresolve.symm.trans hsame.1)

/-- The memory of `readRequestMemory`, with a fourth descriptor that names an indirect table of the
same request. -/
def bothLayouts : GuestMemory :=
  (readRequestMemory.overwrite 0x130
    (u64Bytes 0x600 ++ u32Bytes 48 ++ u16Bytes 4 ++ u16Bytes 0)).overwrite 0x600
    (u64Bytes 0x400 ++ u32Bytes 16 ++ u16Bytes 1 ++ u16Bytes 1 ++
      (u64Bytes 0x500 ++ u32Bytes 512 ++ u16Bytes 3 ++ u16Bytes 2) ++
      (u64Bytes 0x800 ++ u32Bytes 1 ++ u16Bytes 2 ++ u16Bytes 0))

/-- A device that was notified, with both features negotiated. -/
def indirectDevice : VirtioBlkDevice :=
  { notifiedDevice with driverFeatures := virtioBlkSupportedFeatures }

/-- The chain of the request. -/
def readRequestChain : ResolvedRequestChain :=
  ⟨⟨0x400, 16, 1, 1⟩, ⟨0x500, 512, 3, 2⟩, 1, ⟨0x800, 1, 2, 0⟩⟩

theorem storesChain_of_reads {memory : GuestMemory} {table : UInt64} (entries : UInt32)
    {header data status : Descriptor}
    (hheader : readIndirectDescriptor memory table entries 0 = .ok header)
    (hdata : readIndirectDescriptor memory table entries header.next = .ok data)
    (hstatus : readIndirectDescriptor memory table entries data.next = .ok status)
    (hne : header.next ≠ 0 ∧ data.next ≠ 0 ∧ data.next ≠ header.next) :
    StoresChain memory table entries.toNat 0 header data status := by
  rw [readIndirectDescriptor_eq_ok] at hheader hdata hstatus
  exact ⟨hheader.2, hdata.2, hstatus.2, hheader.1, hdata.1, hstatus.1, hne.1, hne.2.1, hne.2.2⟩

/-- The two layouts of the request are accepted and resolved alike. -/
theorem both_layouts_resolved :
    indirectDevice.SoundChain bothLayouts 0 virtioBlkTIn readRequestChain ∧
      indirectDevice.resolveRequestChain bothLayouts 3 = .ok readRequestChain := by
  obtain ⟨hsound, hlayouts⟩ := resolved_chains_sound_and_layout_independent
  have hresolve : indirectDevice.resolveRequestChain bothLayouts 0 = .ok readRequestChain := by
    decide +kernel
  have haccept : (indirectDevice.acceptRequest bothLayouts).map (fun r => (r.head, r.requestType)) =
      .ok (0, virtioBlkTIn) := by
    decide +kernel
  have hdirect : StoresChain bothLayouts indirectDevice.queueDesc 8 0 ⟨0x400, 16, 1, 1⟩
      ⟨0x500, 512, 3, 2⟩ ⟨0x800, 1, 2, 0⟩ :=
    storesChain_of_reads 8 (by decide +kernel) (by decide +kernel) (by decide +kernel)
      (by decide)
  have hindirect : StoresChain bothLayouts 0x600 3 0 ⟨0x400, 16, 1, 1⟩ ⟨0x500, 512, 3, 2⟩
      ⟨0x800, 1, 2, 0⟩ :=
    storesChain_of_reads 3 (by decide +kernel) (by decide +kernel) (by decide +kernel)
      (by decide)
  refine ⟨?_, ?_⟩
  · cases hr : indirectDevice.acceptRequest bothLayouts with
    | error e =>
        rw [hr] at haccept
        cases haccept
    | ok r =>
        rw [hr] at haccept
        obtain ⟨hhead, htype⟩ := Prod.mk.inj (Except.ok.inj haccept)
        exact htype ▸ hsound _ _ _ _ r (by decide) hresolve hr hhead
  · exact ((hlayouts indirectDevice indirectDevice bothLayouts bothLayouts 0 3
      ⟨0x600, 48, 4, 0⟩ ⟨0x400, 16, 1, 1⟩ ⟨0x500, 512, 3, 2⟩ ⟨0x800, 1, 2, 0⟩ hdirect (by decide)
      (readDescriptor_eq_ok.mp (by decide +kernel))
      ⟨by decide, by decide, by decide, by decide, by decide⟩ hindirect).2 _).mpr
      ⟨hresolve, by decide, by decide⟩

/-- The two layouts, with a data buffer that is flagged as indirect. -/
def flaggedLayouts : GuestMemory :=
  (bothLayouts.overwrite 0x11c (u16Bytes 5)).overwrite 0x61c (u16Bytes 5)

/-- Both tables hold the same three descriptors, and only the direct walk returns them. -/
theorem flagged_layouts_differ :
    StoresChain flaggedLayouts indirectDevice.queueDesc 8 0 ⟨0x400, 16, 1, 1⟩ ⟨0x500, 512, 5, 2⟩
        ⟨0x800, 1, 2, 0⟩ ∧
      HoldsDescriptor flaggedLayouts indirectDevice.queueDesc 3 ⟨0x600, 48, 4, 0⟩ ∧
      indirectDevice.IndirectTable ⟨0x600, 48, 4, 0⟩ ∧
      StoresChain flaggedLayouts 0x600 3 0 ⟨0x400, 16, 1, 1⟩ ⟨0x500, 512, 5, 2⟩
        ⟨0x800, 1, 2, 0⟩ ∧
      indirectDevice.resolveRequestChain flaggedLayouts 0 =
        .ok ⟨⟨0x400, 16, 1, 1⟩, ⟨0x500, 512, 5, 2⟩, 1, ⟨0x800, 1, 2, 0⟩⟩ ∧
      indirectDevice.resolveRequestChain flaggedLayouts 3 =
        .error (.device (.nestedIndirectDescriptor 1)) :=
  ⟨storesChain_of_reads 8 (by decide +kernel) (by decide +kernel) (by decide +kernel)
      (by decide),
    readDescriptor_eq_ok.mp (by decide +kernel), ⟨by decide, by decide, by decide, by decide,
      by decide⟩,
    storesChain_of_reads 3 (by decide +kernel) (by decide +kernel) (by decide +kernel)
      (by decide), by decide +kernel, by decide +kernel⟩

end VirtioBlkDevice

end MiniHypervisor.VirtioBlk
