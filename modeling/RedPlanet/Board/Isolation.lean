import RedPlanet.Board.Accesses
import RedPlanet.Core.Secrecy

/-!
# User programs on the board

A program that runs in U-mode under Sv32, on a board with any devices mapped
or not: it changes no byte of DRAM but those that it may write, and nothing it
does depends on the bytes of DRAM that it may not access.  The host may feed
the UART in the meantime.

What it may access are its pages and, since only the first byte of an access
is translated, up to three bytes past the physical end of each of them.  A
kernel that wants to keep a secret has to leave these bytes free.

`user_contained` is about what the program changes, and `user_oblivious` about
what it sees.  The example is a kernel with a program of one store.
-/

namespace RedPlanet

open RedPlanet.Core RedPlanet.Resources RedPlanet.Verified

/-! ## DRAM with other contents -/

namespace Resources.Ram

/-- The RAM with these bytes. -/
def withElem (contents : ℕ → BitVec 8) (ram : Ram) : Ram :=
  { ram with data := { ram.data with elem := contents } }

variable {address : BitVec 32} {buf : List (BitVec 8)} {ram ram' : Ram}
  {contents : ℕ → BitVec 8}

/-- A read sees the bytes of its access only. -/
theorem read_withElem
    (h : ∀ i < buf.length,
      contents (address.toNat + i) = ram.data.elem (address.toNat + i)) :
    (ram.withElem contents).read address buf = ram.read address buf := by
  unfold read
  by_cases houtside : ram.maxAddress < address ∨ buf = []
  · have houtside' : (ram.withElem contents).maxAddress < address ∨ buf = [] :=
      houtside
    rw [if_pos houtside, if_pos houtside']
  · have houtside' :
        ¬ ((ram.withElem contents).maxAddress < address ∨ buf = []) := houtside
    rw [if_neg houtside, if_neg houtside']
    have hbuf : buf ≠ [] := fun hnil => houtside (Or.inr hnil)
    have hpos := List.length_pos_iff.2 hbuf
    have hextent : ram.extent address buf.length ≤ buf.length := by
      unfold extent
      omega
    have hdata : (ram.withElem contents).data.read address.toNat
        (ram.extent address buf.length)
        = ram.data.read address.toNat (ram.extent address buf.length) := by
      unfold Flat.read
      split
      case isTrue hfits =>
        have hfits' : address.toNat + ram.extent address buf.length
            ≤ ram.data.size := hfits
        rw [if_pos hfits']
        congr 1
        apply List.map_congr_left
        intro i hi
        exact h i (Nat.lt_of_lt_of_le (List.mem_range.1 hi) hextent)
      case isFalse hfits =>
        have hfits' : ¬ address.toNat + ram.extent address buf.length
            ≤ ram.data.size := hfits
        rw [if_neg hfits']
    exact congrArg (Option.map (overwrite buf)) hdata

/-- A RAM is given by its size and its bytes. -/
theorem ext_of {ram ram' : Ram} (hsize : ram'.data.size = ram.data.size) :
    ram' = ram.withElem ram'.data.elem := by
  have hmax : ram'.maxAddress = ram.maxAddress := by
    apply BitVec.eq_of_toNat_eq
    have hfits := ram.fits
    have hfits' := ram'.fits
    omega
  obtain ⟨⟨size, elem⟩, maxAddress, fits⟩ := ram
  obtain ⟨⟨size', elem'⟩, maxAddress', fits'⟩ := ram'
  dsimp only at hsize hmax
  subst hsize hmax
  rfl

/-- A write stores the same bytes, whatever was there. -/
theorem write_withElem (address : BitVec 32) (buf : List (BitVec 8))
    (ram : Ram) (contents : ℕ → BitVec 8) :
    ∃ ram' contents', ram.write address buf = some ram' ∧
      (ram.withElem contents).write address buf
        = some (ram'.withElem contents') ∧
      ∀ i, contents i = ram.data.elem i → contents' i = ram'.data.elem i := by
  obtain ⟨ram₁, hwrite⟩ :=
    Option.ne_none_iff_exists'.1 (write_ne_none address buf ram)
  obtain ⟨ram₂, hwrite'⟩ := Option.ne_none_iff_exists'.1
    (write_ne_none address buf (ram.withElem contents))
  have hsize := (write_keeps hwrite).2
  have hsize' := (write_keeps hwrite').2
  have heq : ram₂ = ram₁.withElem ram₂.data.elem :=
    ext_of (hsize'.trans hsize.symm)
  refine ⟨ram₁, ram₂.data.elem, hwrite, ?_, ?_⟩
  · rw [← heq]
    exact hwrite'
  · intro i hi
    have hi' : (ram.withElem contents).data.elem i = ram.data.elem i := hi
    rw [elem_write hwrite, elem_write hwrite', hi']
    rfl

end Resources.Ram

namespace Board

namespace SystemBus

/-- The bus with these bytes in DRAM. -/
def withDram (contents : ℕ → BitVec 8) (bus : SystemBus) : SystemBus :=
  { bus with dram := bus.dram.withElem contents }

/-- The index into DRAM of an address. -/
def dramIndex (x : BitVec 32) : ℕ := (x - dramRange.start).toNat

/-- The contents are those of DRAM but for hidden bytes. -/
def SameDram (hidden : BitVec 32 → Prop) (contents : ℕ → BitVec 8)
    (bus : SystemBus) : Prop :=
  ∀ x, dramRange.start ≤ x → ¬ hidden x →
    contents (dramIndex x) = bus.dram.data.elem (dramIndex x)

/-- The bytes of an access to DRAM. -/
theorem dramIndex_of_checkAccess {address mapped : BitVec 32} {size i : ℕ}
    (h : checkAccess address size = some (.dram, mapped)) (hi : i < size) :
    dramRange.start ≤ address + BitVec.ofNat 32 i ∧
      dramIndex (address + BitVec.ofNat 32 i) = mapped.toNat + i := by
  obtain ⟨range, hmem, hcontains, _, _, hlast, rfl⟩ :=
    checkAccess_eq_some_iff.1 h
  obtain rfl := range_of_dram hmem
  have hge : dramRange.start.toNat ≤ address.toNat := hcontains.1
  have hrest : (dramRange.last - address).toNat = 4294967295 - address.toNat :=
    BitVec.toNat_sub_of_le hcontains.2
  have hlt := address.isLt
  have hsum : (address + BitVec.ofNat 32 i).toNat = address.toNat + i := by
    rw [BitVec.toNat_add, BitVec.toNat_ofNat]
    omega
  have hstart : dramRange.start ≤ address + BitVec.ofNat 32 i := by
    show dramRange.start.toNat ≤ (address + BitVec.ofNat 32 i).toNat
    omega
  refine ⟨hstart, ?_⟩
  unfold dramIndex
  rw [BitVec.toNat_sub_of_le hstart, BitVec.toNat_sub_of_le hcontains.1, hsum]
  omega

/-- Devices do not notice what is in DRAM. -/
theorem withUart_withDram (uart0 : Uart) (callbacks : List Callback)
    (bus : SystemBus) (contents : ℕ → BitVec 8) :
    (bus.withDram contents).withUart uart0 callbacks
      = (bus.withUart uart0 callbacks).map fun r =>
          (r.1.withDram contents, r.2) := by
  unfold withUart
  rw [Option.map_map]
  rfl

/-- Reads with the same result, of buses that differ in DRAM. -/
def SameRead (hidden : BitVec 32 → Prop)
    (r r' : List (BitVec 8) × SystemBus × List IrqCall) : Prop :=
  r'.1 = r.1 ∧ (∃ contents, r'.2.1 = r.2.1.withDram contents ∧
    SameDram hidden contents r.2.1) ∧ r'.2.2 = r.2.2

variable {hidden : BitVec 32 → Prop} {contents : ℕ → BitVec 8}

/-- A reply that leaves DRAM alone, and does not depend on it. -/
theorem rel_map_withDram {α : Type} {R : α → α → Prop} {reply : Option α}
    {f : α → α} (h : ∀ r, reply = some r → R r (f r)) :
    Option.Rel R reply (reply.map f) := by
  cases reply with
  | none => exact .none
  | some r => exact .some (h r rfl)

theorem rel_read [Build] {address : BitVec 32} {buf : List (BitVec 8)}
    (bus : SystemBus) (hsame : SameDram hidden contents bus)
    (hvisible : ∀ x, InAccess address buf.length x → ¬ hidden x) :
    Option.Rel (SameRead hidden) (bus.read address buf)
      ((bus.withDram contents).read address buf) := by
  have hread : (bus.withDram contents).read address buf
      = (bus.read address buf).map fun r =>
          (r.1, r.2.1.withDram contents, r.2.2) := by
    unfold read
    cases hcheck : checkAccess address buf.length with
    | none => rfl
    | some found =>
        obtain ⟨resource, mapped⟩ := found
        cases resource with
        | dram =>
            have hbytes : (bus.dram.withElem contents).read mapped buf
                = bus.dram.read mapped buf := by
              apply Ram.read_withElem
              intro i hi
              obtain ⟨hstart, hindex⟩ := dramIndex_of_checkAccess hcheck hi
              rw [← hindex]
              exact hsame _ hstart (hvisible _ ⟨i, hi, rfl⟩)
            dsimp only
            rw [Option.map_map]
            exact congrArg (Option.map _) hbytes
        | uart0 =>
            show (bus.uart0.read mapped buf >>= fun r =>
                ((bus.withDram contents).withUart r.2.1 r.2.2).map
                  fun rest => (r.1, rest))
              = (bus.uart0.read mapped buf >>= fun r =>
                (bus.withUart r.2.1 r.2.2).map fun rest => (r.1, rest)).map _
            cases bus.uart0.read mapped buf with
            | none => rfl
            | some r =>
                show ((bus.withDram contents).withUart r.2.1 r.2.2).map _
                  = ((bus.withUart r.2.1 r.2.2).map _).map _
                rw [withUart_withDram, Option.map_map, Option.map_map]
                rfl
        | powerDown => rfl
        | _ =>
            dsimp only
            rw [Option.map_map]
            rfl
  rw [hread]
  apply rel_map_withDram
  intro r hr
  obtain ⟨buf', bus', calls⟩ := r
  refine ⟨rfl, ⟨contents, rfl, ?_⟩, rfl⟩
  unfold SameDram
  rw [dram_read hr]
  exact hsame

/-- Writes with the same effect on buses that differ in DRAM. -/
def SameWrite (hidden : BitVec 32 → Prop)
    (r r' : SystemBus × List IrqCall) : Prop :=
  (∃ contents, r'.1 = r.1.withDram contents ∧ SameDram hidden contents r.1) ∧
    r'.2 = r.2

theorem rel_write (address : BitVec 32) (buf : List (BitVec 8))
    (bus : SystemBus) (hsame : SameDram hidden contents bus) :
    Option.Rel (SameWrite hidden) (bus.write address buf)
      ((bus.withDram contents).write address buf) := by
  unfold write
  cases hcheck : checkAccess address buf.length with
  | none => exact .some ⟨⟨contents, rfl, hsame⟩, rfl⟩
  | some found =>
      obtain ⟨resource, mapped⟩ := found
      cases resource with
      | mrom => exact .some ⟨⟨contents, rfl, hsame⟩, rfl⟩
      | flash => exact .some ⟨⟨contents, rfl, hsame⟩, rfl⟩
      | clint => exact .some ⟨⟨contents, rfl, hsame⟩, rfl⟩
      | plic =>
          show Option.Rel _ ((bus.plic.write mapped buf).map _)
            ((bus.plic.write mapped buf).map _)
          cases bus.plic.write mapped buf with
          | none => exact .none
          | some r => exact .some ⟨⟨contents, rfl, hsame⟩, rfl⟩
      | uart0 =>
          show Option.Rel _
            (bus.uart0.write mapped buf >>= fun r => bus.withUart r.1 r.2)
            (bus.uart0.write mapped buf >>= fun r =>
              (bus.withDram contents).withUart r.1 r.2)
          cases bus.uart0.write mapped buf with
          | none => exact .none
          | some r =>
              show Option.Rel _ (bus.withUart r.1 r.2)
                ((bus.withDram contents).withUart r.1 r.2)
              rw [withUart_withDram]
              apply rel_map_withDram
              intro r' hr'
              refine ⟨⟨contents, rfl, ?_⟩, rfl⟩
              unfold SameDram
              rw [dram_withUart hr']
              exact hsame
      | dram =>
          obtain ⟨ram, contents', hwrite, hwrite', hkeep⟩ :=
            Ram.write_withElem mapped buf bus.dram contents
          show Option.Rel _ ((bus.dram.write mapped buf).map _)
            (((bus.dram.withElem contents).write mapped buf).map _)
          rw [hwrite, hwrite']
          refine .some ⟨⟨contents', rfl, ?_⟩, rfl⟩
          intro x hstart hx
          exact hkeep _ (hsame x hstart hx)
      | powerDown =>
          refine .some ⟨⟨contents, ?_, ?_⟩, rfl⟩
          · show (bus.withDram contents).writePowerDown buf
              = (bus.writePowerDown buf).withDram contents
            unfold writePowerDown
            split <;> rfl
          · unfold writePowerDown
            split <;> exact hsame

end SystemBus

open SystemBus

/-- Bytes of DRAM can be hidden. -/
def dramHiding [Build] : Hiding memory where
  Same hidden bus bus' :=
    ∃ contents, bus' = bus.withDram contents ∧ SameDram hidden contents bus
  byte := by
    rintro hidden bus _ ⟨contents, rfl, hsame⟩ x hx
    show dramByte _ x = dramByte bus x
    unfold dramByte
    by_cases hstart : dramRange.start ≤ x
    · rw [if_pos hstart, if_pos hstart]
      exact hsame x hstart hx
    · rw [if_neg hstart, if_neg hstart]
  ram := by
    rintro hidden bus _ ⟨contents, rfl, _⟩
    exact inDram_congr rfl
  read := by
    rintro hidden bus _ address buf ⟨contents, rfl, hsame⟩ hvisible
    exact rel_read bus hsame hvisible
  write := by
    rintro hidden bus _ address buf ⟨contents, rfl, hsame⟩
    exact rel_write address buf bus hsame

/-! ## Runs of user code -/

/-- What happens to a board: it makes a step, or the host feeds the UART. -/
inductive Move where
  | step
  | input (bytes : List (BitVec 8))
deriving DecidableEq, Repr

section UserCode

variable [Build] {s t u : Board} {moves : List Move}

/-- A run of the board whose steps all start in U-mode, and what happened in
it. -/
inductive UserRun (s : Board) : List Move → Board → Prop
  | start : UserRun s [] s
  | step {moves : List Move} {t u : Board} (h : UserRun s moves t)
      (hmode : t.privilegeMode = .user) (hstep : Board.step t = .ok () u) :
      UserRun s (moves ++ [.step]) u
  | input {moves : List Move} {t u : Board} {bytes : List (BitVec 8)}
      (h : UserRun s moves t) (hinput : t.pushInput bytes = some u) :
      UserRun s (moves ++ [.input bytes]) u

/-- A step of the board: the core's, unless the board is powered down, and
then the CLINT's. -/
theorem step_eq (t : Board) :
    Board.step t = if t.bus.powerDown = true then .ok () (clearEvents t)
      else ((Core.step coreConfig : CoreM SystemBus Empty Unit) >>=
        fun _ => clintStep) (clearEvents t) := by
  unfold Board.step stepLogged
  rw [Exec.get_bind]
  show (if t.bus.powerDown = true then _ else _ : CoreM SystemBus Empty Unit) _
    = _
  split <;> rfl

theorem Reachable.confined {config : Config} (h : Reachable config s) :
    Confined s := by
  induction h with
  | new h =>
      obtain ⟨_, _, _, rfl⟩ := new_eq h
      intro hmode
      exact absurd rfl hmode
  | loadDram contents _ ih => exact ih
  | pushInput _ hinput ih =>
      obtain ⟨_, _, _, rfl⟩ := pushInput_eq hinput
      exact ih
  | @step board _ _ ih =>
      exact (tame_stepLogged (clearEvents board)).1.confined ih

theorem kept_of_dram (h : u.bus.dram = t.bus.dram) :
    memory.Kept (fun _ => False) t u where
  byte := by
    intro x _
    show dramByte u.bus x = dramByte t.bus x
    unfold dramByte
    rw [h]
  ram := inDram_congr (by rw [h])

/-- What the host or the CLINT does leaves DRAM alone, and the core too. -/
theorem UserRun.core (h : UserRun s moves t) :
    Core.UserRun memory coreConfig s t := by
  induction h with
  | start => exact .start
  | @step _ t u _ hmode hstep ih =>
      have hcleared : Core.UserRun memory coreConfig s (clearEvents t) :=
        .other ih (kept_of_dram rfl) ⟨rfl, rfl, rfl, rfl, rfl⟩
      rw [step_eq] at hstep
      split at hstep
      · cases hstep
        exact hcleared
      · obtain ⟨_, v, hcore, hclint⟩ := Exec.bind_ok_iff.1 hstep
        cases hclint
        exact .other (.step hcleared hmode hcore) (kept_of_dram rfl)
          (sameControl_deliverAll _ _ v)
  | @input _ t u bytes _ hinput ih =>
      obtain ⟨bus, calls, hbus, rfl⟩ := pushInput_eq hinput
      exact .other ih (kept_of_dram (dram_withUart hbus))
        (sameControl_deliverAll calls bus t)

/-- The board runs user code under Sv32, with its page tables in DRAM that
this code cannot write. -/
structure Isolates (s : Board) : Prop where
  mode : s.privilegeMode = .user
  sv32 : s.trap.satpMode = .sv32
  ram : TablesInRam memory s
  apart : ∀ {x}, UserByte memory s .write x → ¬ TableByte memory s x

theorem Isolates.guarded {config : Config} (h : Isolates s)
    (hreach : Reachable config s) : Guarded memory s where
  mode := h.mode
  mprv := by
    apply hreach.confined
    rw [h.mode]
    decide
  sv32 := h.sv32
  ram := h.ram
  apart := h.apart

/-- In every run of user code on the board no byte of DRAM changes but those
that the code may write and the A and D bits of leaf page table entries, and
it cannot get at more memory than before. -/
theorem user_contained {config : Config} (hreach : Reachable config s)
    (h : Isolates s) (hrun : UserRun s moves t) :
    Contained memory s t ∧
      (t.privilegeMode = .user →
        (∀ accessType, UserByte memory t accessType
          = UserByte memory s accessType) ∧
        TableByte memory t = TableByte memory s) := by
  obtain ⟨hmemory, hcontrol⟩ := contained_run (h.guarded hreach) hrun.core
  refine ⟨hmemory, ?_⟩
  intro hmode
  have htables := hmemory.sameTables (hcontrol hmode)
  exact ⟨fun _ => htables.userByte (hcontrol hmode).status, htables.tableByte⟩

/-! ## What user code does not see -/

/-- A byte of DRAM that belongs neither to the pages of user code nor to the
page tables. -/
def Hidden (s : Board) (x : BitVec 32) : Prop :=
  dramRange.start ≤ x ∧ ¬ TableByte memory s x ∧
    ∀ accessType, ¬ UserByte memory s accessType x

theorem unseen_hidden (s : Board) : Unseen memory (Hidden s) s where
  table h := h.2.1
  user h := h.2.2 _

/-- mtime is not in DRAM. -/
theorem mtime_visible (s : Board) (x : BitVec 32)
    (h : InAccess coreConfig.mtimeAddress 8 x) : ¬ Hidden s x := by
  obtain ⟨i, hi, rfl⟩ := h
  rintro ⟨hstart, _⟩
  have hle : 0x80000000 ≤ (coreConfig.mtimeAddress + BitVec.ofNat 32 i).toNat :=
    hstart
  have haddress : coreConfig.mtimeAddress.toNat = 0x0200BFF8 := by decide
  rw [BitVec.toNat_add, haddress, BitVec.toNat_ofNat] at hle
  omega

theorem twins_loadDram {hidden : BitVec 32 → Prop}
    {contents : ℕ → BitVec 8} (h : SameDram hidden contents s.bus) :
    Twins dramHiding hidden s (s.loadDram contents) :=
  ⟨s.bus.withDram contents, rfl, contents, rfl, h⟩

theorem eq_loadDram_of_twins {hidden : BitVec 32 → Prop}
    (h : Twins dramHiding hidden s t) :
    ∃ contents, t = s.loadDram contents ∧ SameDram hidden contents s.bus := by
  obtain ⟨_, rfl, contents, rfl, hsame⟩ := h
  exact ⟨contents, rfl, hsame⟩

/-- A step of user code on the board. -/
theorem agree_boardStep {hidden : BitVec 32 → Prop}
    (htime : ∀ x, InAccess coreConfig.mtimeAddress 8 x → ¬ hidden x)
    (h : Shared dramHiding hidden s t) :
    (Board.step s).Agree (Twins dramHiding hidden) (Board.step t) := by
  have hcleared : Shared dramHiding hidden (clearEvents s) (clearEvents t) := by
    have htwins : Twins dramHiding hidden (clearEvents s) (clearEvents t) :=
      h.twins.map (fun _ _ => rfl) fun _ => rfl
    have hmemory : Contained memory s (clearEvents s) :=
      .of_bus (t := s) rfl (.refl s)
    exact h.of_contained htwins hmemory ⟨rfl, rfl, rfl, rfl, rfl⟩
  have hpower : t.bus.powerDown = s.bus.powerDown := by
    obtain ⟨contents, rfl, _⟩ := eq_loadDram_of_twins h.twins
    rfl
  rw [step_eq, step_eq, hpower]
  split
  · exact .ok hcleared.twins
  · apply (agree_step htime hcleared).bind (fun _ _ htwins => htwins)
    intro _ u v _ htwins
    obtain ⟨contents, rfl, hsame⟩ := eq_loadDram_of_twins htwins
    exact .ok ⟨_, rfl, contents, rfl, hsame⟩

theorem twins_pushInput {hidden : BitVec 32 → Prop} {bytes : List (BitVec 8)}
    (h : Twins dramHiding hidden s t) (hinput : s.pushInput bytes = some u) :
    ∃ v, t.pushInput bytes = some v ∧ Twins dramHiding hidden u v := by
  obtain ⟨bus, calls, hbus, rfl⟩ := pushInput_eq hinput
  obtain ⟨contents, rfl, hsame⟩ := eq_loadDram_of_twins h
  have hbus' : (s.bus.withDram contents).withUart
      (s.bus.uart0.pushAndRead bytes).2.1 (s.bus.uart0.pushAndRead bytes).2.2
      = some (bus.withDram contents, calls) := by
    rw [withUart_withDram, hbus]
    rfl
  refine ⟨{ s with bus := bus.withDram contents }.onInterrupts
    (Interrupts.deliverAll calls), ?_, ?_⟩
  · exact congrArg (Option.map _) hbus'
  · refine ⟨_, rfl, contents, rfl, ?_⟩
    intro x hstart hx
    have hdram := dram_withUart hbus
    show contents (dramIndex x) = bus.dram.data.elem (dramIndex x)
    rw [hdram]
    exact hsame x hstart hx

/-- The run with other hidden bytes. -/
theorem UserRun.twin {config : Config} (hreach : Reachable config s)
    (h : Isolates s) {s' : Board} (htwins : Twins dramHiding (Hidden s) s s')
    (hrun : UserRun s moves t) :
    ∃ t', UserRun s' moves t' ∧ Twins dramHiding (Hidden s) t t' := by
  have hguarded := h.guarded hreach
  induction hrun with
  | start => exact ⟨s', .start, htwins⟩
  | @step _ t u hrun hmode hstep ih =>
      obtain ⟨t', hrun', htwins'⟩ := ih
      obtain ⟨hmemory, hcontrol⟩ := contained_run hguarded hrun.core
      have hshared : Shared dramHiding (Hidden s) t t' :=
        ⟨htwins', hguarded.of_contained hmemory (hcontrol hmode),
          (unseen_hidden s).of_contained hmemory (hcontrol hmode)⟩
      have hagree := agree_boardStep (mtime_visible s) hshared
      rw [hstep] at hagree
      obtain ⟨u', hstep', htwins''⟩ := hagree.of_ok
      refine ⟨u', .step hrun' ?_ hstep', htwins''⟩
      rw [hshared.guarded_right.mode]
  | @input _ t u bytes _ hinput ih =>
      obtain ⟨t', hrun', htwins'⟩ := ih
      obtain ⟨u', hinput', htwins''⟩ := twins_pushInput htwins' hinput
      exact ⟨u', .input hrun' hinput', htwins''⟩

/-- Whatever the bytes of DRAM that user code is kept from are, it does the
same: the same run is one of the board with other such bytes, it ends in the
same state but for them, and it leaves them as they were. -/
theorem user_oblivious {config : Config} (hreach : Reachable config s)
    (h : Isolates s) {contents : ℕ → BitVec 8}
    (hsame : SameDram (Hidden s) contents s.bus) (hrun : UserRun s moves t) :
    ∃ contents', UserRun (s.loadDram contents) moves (t.loadDram contents') ∧
      SameDram (Hidden s) contents' t.bus ∧
      ∀ x, Hidden s x → contents' (dramIndex x) = contents (dramIndex x) := by
  have htwins := twins_loadDram hsame
  obtain ⟨t', hrun', htwins'⟩ := hrun.twin hreach h htwins
  obtain ⟨contents', rfl, hsame'⟩ := eq_loadDram_of_twins htwins'
  refine ⟨contents', hrun', hsame', ?_⟩
  intro x hx
  have hshared : Shared dramHiding (Hidden s) s (s.loadDram contents) :=
    ⟨htwins, h.guarded hreach, unseen_hidden s⟩
  have htables := hshared.sameTables
  have hbyte := (contained_run hshared.guarded_right hrun'.core).1.byte (x := x)
    (by rw [htables.userByte rfl]; exact hx.2.2 _)
    (by rw [htables.tableByte]; exact hx.2.1)
  have hdram : ∀ (board : Board) (elem : ℕ → BitVec 8),
      memory.byte (board.loadDram elem).bus x = elem (dramIndex x) := by
    intro board elem
    exact if_pos hx.1
  rw [hdram, hdram] at hbyte
  exact hbyte

end UserCode

/-! ## A user program -/

def kernelConfig : Config where
  bootToFlash := false
  endianness := .LE
  flash := []

/-- A kernel that sets satp to 0x80080001 and starts the user program
`sw t0, 256(zero)` at address 0.  The only leaf of its page table maps this
address to the page at 0x80400000. -/
def kernelDram (i : ℕ) : BitVec 8 :=
  if i < 0x1000 then
    [0xB7, 0x02, 0x08, 0x80, -- lui   t0, 0x80080
      0x93, 0x82, 0x12, 0x00, -- addi  t0, t0, 1
      0x73, 0x90, 0x02, 0x18, -- csrw  satp, t0
      0x73, 0x00, 0x20, 0x30].getD i 0 -- mret
  else if i < 0x400000 then [0xDF, 0x00, 0x10, 0x20].getD (i - 0x1000) 0
  else [0x23, 0x20, 0x50, 0x10].getD (i - 0x400000) 0

def kernelBoard : Board :=
  ((new kernelConfig).get (by decide +kernel)).loadDram kernelDram

/-- The board at the first instruction of the user program. -/
def userProgram : Board := (@Board.runSteps Build.debug 8 kernelBoard).state

theorem reachable_userProgram :
    @Reachable Build.debug kernelConfig userProgram := by
  have hnew : @Reachable Build.debug kernelConfig
      ((new kernelConfig).get (by decide +kernel)) :=
    @Reachable.new Build.debug kernelConfig _ (Option.some_get _).symm
  have hkernel : @Reachable Build.debug kernelConfig kernelBoard :=
    @Reachable.loadDram Build.debug kernelConfig _ kernelDram hnew
  exact @Reachable.runSteps Build.debug kernelConfig kernelBoard hkernel 8
    (by decide +kernel)

/-- The root table has one entry, which is the leaf. -/
theorem word_userProgram [Build] {i : ℕ} (hi : i < 1024) :
    memory.word userProgram.bus (BitVec.ofNat 32 (0x80001000 + i * 4))
      = if i = 0 then 0x201000DF else 0 := by
  have hwords : ∀ i < 1024,
      ofLeBytes 32 ((List.range 4).map fun k => userProgram.bus.dramByte
        (BitVec.ofNat 32 (0x80001000 + i * 4) + BitVec.ofNat 32 k))
        = if i = 0 then 0x201000DF else 0 := by decide +kernel
  exact hwords i hi

theorem entryAddress_userProgram (address : BitVec 32) :
    Sv32.entryAddress userProgram.trap.satpPpn address 1
      = BitVec.ofNat 32 (0x80001000 + Sv32.vpn address 1 * 4) := by
  have hppn : userProgram.trap.satpPpn = 0x80001 := by decide +kernel
  rw [hppn]
  rfl

theorem entryAt_userProgram [Build] {address slot : BitVec 32} {level : ℕ}
    (h : EntryAt memory userProgram address level slot) :
    level = 1 ∧
      slot = BitVec.ofNat 32 (0x80001000 + Sv32.vpn address 1 * 4) := by
  induction h with
  | root => exact ⟨rfl, entryAddress_userProgram address⟩
  | next _ hpointer ih =>
      obtain ⟨_, rfl⟩ := ih
      have hword := word_userProgram (Sv32.vpn_lt address 1)
      unfold Memory.pte at hpointer
      rw [hword] at hpointer
      split at hpointer <;> exact absurd hpointer (by decide)

theorem tableByte_userProgram [Build] {x : BitVec 32}
    (h : TableByte memory userProgram x) :
    0x80001000 ≤ x.toNat ∧ x.toNat < 0x80002000 := by
  obtain ⟨address, level, slot, hentry, i, hi, rfl⟩ := h
  obtain ⟨_, rfl⟩ := entryAt_userProgram hentry
  have hvpn := Sv32.vpn_lt address 1
  rw [BitVec.toNat_add, BitVec.toNat_ofNat, BitVec.toNat_ofNat]
  omega

theorem userByte_userProgram [Build] {accessType : AccessType} {x : BitVec 32}
    (h : UserByte memory userProgram accessType x) :
    0x80400000 ≤ x.toNat ∧ x.toNat < 0x80401003 := by
  obtain ⟨address, pa, ⟨level, slot, hentry, hpermits, rfl⟩, i, hi, rfl⟩ := h
  obtain ⟨rfl, rfl⟩ := entryAt_userProgram hentry
  have hword := word_userProgram (Sv32.vpn_lt address 1)
  have hvalid := hpermits.valid
  have hoffset := Sv32.pageOffset_lt address
  unfold Memory.pte at hvalid ⊢
  rw [hword] at hvalid ⊢
  split at hvalid
  case isTrue hvpn =>
    rw [if_pos hvpn, BitVec.toNat_add, BitVec.toNat_ofNat, BitVec.toNat_ofNat]
    unfold Pte.physicalAt Pte.page
    rw [if_neg Nat.one_ne_zero, hvpn]
    have hppn : (Pte.mk 0x201000DF).ppn.toNat = 0x80400 := by decide
    rw [hppn]
    omega
  case isFalse => exact absurd hvalid (by decide)

theorem isolates_userProgram [Build] : Isolates userProgram where
  mode := by decide +kernel
  sv32 := by decide +kernel
  ram := by
    intro address level slot hentry
    obtain ⟨_, rfl⟩ := entryAt_userProgram hentry
    have hvpn := Sv32.vpn_lt address 1
    have hslot : (BitVec.ofNat 32 (0x80001000 + Sv32.vpn address 1 * 4)).toNat
        = 0x80001000 + Sv32.vpn address 1 * 4 := by
      rw [BitVec.toNat_ofNat]
      omega
    refine (inDram_iff (by decide +kernel)).2 ⟨by decide, ?_, ?_⟩
    · show 0x80000000 ≤ BitVec.toNat _
      omega
    · omega
  apart := by
    intro x huser htable
    have hpage := userByte_userProgram huser
    have hroot := tableByte_userProgram htable
    omega

/-- The user program makes its store. -/
theorem run_userProgram :
    ∃ t, @UserRun Build.debug userProgram [.step] t ∧
      t.bus.dramByte 0x80400103 = 0x80 := by
  refine ⟨(@Board.step Build.debug userProgram).state, ?_, by decide +kernel⟩
  apply @UserRun.step Build.debug userProgram [] userProgram
  · exact @UserRun.start Build.debug userProgram
  · decide +kernel
  · exact @step_eq_ok Build.debug userProgram (by decide +kernel)

/-- The program stores a byte in its own page, and nowhere else. -/
theorem user_contained_store :
    ∃ t, @UserRun Build.debug userProgram [.step] t ∧
      t.bus.dramByte 0x80400103 = 0x80 ∧
      @Contained SystemBus (@SystemBus.coreBus Build.debug)
        (@memory Build.debug) userProgram t := by
  obtain ⟨t, hrun, hstored⟩ := run_userProgram
  exact ⟨t, hrun, hstored,
    (@user_contained Build.debug userProgram t [.step] kernelConfig
      reachable_userProgram (@isolates_userProgram Build.debug) hrun).1⟩

/-- DRAM in which the kernel is damaged. -/
def damagedDram (i : ℕ) : BitVec 8 :=
  if i = 0 then 0xFF else userProgram.bus.dram.data.elem i

theorem sameDram_damaged [Build] :
    SameDram (Hidden userProgram) damagedDram userProgram.bus := by
  intro x hstart hvisible
  have hindex : dramIndex x ≠ 0 := by
    intro hzero
    have hx : x.toNat = 0x80000000 := by
      have hle : 0x80000000 ≤ x.toNat := hstart
      have hsub : (x - dramRange.start).toNat = x.toNat - 0x80000000 :=
        BitVec.toNat_sub_of_le hstart
      unfold dramIndex at hzero
      omega
    apply hvisible
    refine ⟨hstart, ?_, ?_⟩
    · intro htable
      have hroot := tableByte_userProgram htable
      omega
    · intro accessType huser
      have hpage := userByte_userProgram huser
      omega
  exact if_neg hindex

/-- It does the same when the kernel's memory is damaged. -/
theorem user_oblivious_store :
    ∃ (t : Board) (contents : ℕ → BitVec 8), t.bus.dramByte 0x80400103 = 0x80 ∧
      @UserRun Build.debug (userProgram.loadDram damagedDram) [.step]
        (t.loadDram contents) := by
  obtain ⟨t, hrun, hstored⟩ := run_userProgram
  obtain ⟨contents, hrun', _⟩ :=
    @user_oblivious Build.debug userProgram t [.step] kernelConfig
      reachable_userProgram (@isolates_userProgram Build.debug) damagedDram
      (@sameDram_damaged Build.debug) hrun
  exact ⟨t, contents, hstored, hrun'⟩

end Board

end RedPlanet
