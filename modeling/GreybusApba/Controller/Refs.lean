import GreybusApba.Controller.Power

/-!
# Controller/Refs — the driver holds no MTD device between operations

`apba_init_mtd_module` takes a reference with `get_mtd_device` on every device it looks at: it
puts back at once each device it does not want, and the pipelines' `cleanup:` label puts back the
one it returns. No other entry point reaches the MTD layer: a `Quiet` step makes no MTD call, and
`apba_on`, `apba_flash_on` and the `no_mtd:` tail make none either. So every operation leaves the
references held on each device as it found them (`step_mtdRefs`), and every reachable state holds
none (`reachable_mtdRefs`).
-/

namespace GreybusApba

variable (c : Consts)

/-! ## Steps that keep the references -/

theorem Quiet.mtdRefs_eq {s s' : State} (h : Quiet s s') (n : Nat) :
    mtdRefs s'.calls n = mtdRefs s.calls n := by
  obtain ⟨-, l, e, a⟩ := h
  rw [e, mtdRefs_append, mtdRefs_of_all (all_isQuiet_iff.1 a).2, Int.add_zero]

theorem mtdRefs_apbaOn (s : State) (enable : Bool) (n : Nat) :
    mtdRefs (apbaOn s enable).calls n = mtdRefs s.calls n := by
  obtain ⟨l, h, m⟩ := apbaOn_calls_noMtd s enable
  rw [h, mtdRefs_append, mtdRefs_of_all m, Int.add_zero]

theorem mtdRefs_apbaFlashOn (s : State) (enable created : Bool) (n : Nat) :
    mtdRefs (apbaFlashOn s enable created).calls n = mtdRefs s.calls n := by
  obtain ⟨l, h, m⟩ := apbaFlashOn_calls_noMtd s enable created
  rw [h, mtdRefs_append, mtdRefs_of_all m, Int.add_zero]

theorem mtdRefs_flashExit (s : State) (n : Nat) :
    mtdRefs (flashExit s).calls n = mtdRefs s.calls n := by
  obtain ⟨l, h, m⟩ := flashExit_calls_noMtd s
  rw [h, mtdRefs_append, mtdRefs_of_all m, Int.add_zero]

theorem ExitFrom.mtdRefs_eq {s₁ s₂ : State} (h : ExitFrom s₁ s₂) (n : Nat) :
    mtdRefs s₂.calls n = mtdRefs s₁.calls n := by
  rcases h with rfl | ⟨_, -, h⟩
  · rfl
  · exact h n

/-- **No operation changes the references held**: from any state, whatever the collaborators
answer, each of the five things a step can do (`step_power`) puts back every MTD reference it
takes. -/
theorem step_mtdRefs (s : State) (op : Op) (n : Nat) :
    mtdRefs (step c s op).calls n = mtdRefs s.calls n := by
  rcases step_power c s op with
    hq | ⟨s₁, hq, e⟩ | ⟨s₁, hq, e⟩ | ⟨s₁, s₂, hq, hx, hq'⟩ | ⟨v, created, count, -, -, e⟩
  · exact hq.mtdRefs_eq n
  · rw [e, mtdRefs_apbaOn]; exact hq.mtdRefs_eq n
  · rw [e, mtdRefs_apbaOn]; exact hq.mtdRefs_eq n
  · rw [hq'.mtdRefs_eq, mtdRefs_flashExit, hx.mtdRefs_eq, hq.mtdRefs_eq]
  · rw [e, mtdRefs_apbaFlashOn]

/-! ## Reachable states -/

/-- **Every reachable state holds no MTD device**: after any sequence of operations from a
successful probe, with any answers of the collaborators, each `get_mtd_device` the driver made has
been matched by a `put_mtd_device`. -/
theorem reachable_mtdRefs {s : State} (hs : Reachable c s) (n : Nat) : mtdRefs s.calls n = 0 :=
  reachable_induct c (P := fun s => mtdRefs s.calls n = 0)
    (fun _ _ hp => by
      obtain ⟨s₀, hz, -, rfl⟩ := apbaCtrlProbe_ok hp
      rw [mtdRefs_apbaOn, hz.calls]; rfl)
    (fun s op h => (step_mtdRefs c s op n).trans h) hs

/-- The device tree of `DeviceTree.sample` with an `apba` partition of eight bytes as MTD device 0,
and an image flashed into it by the firmware callback: the lookup takes device 0, and the
`cleanup:` label puts it back. -/
theorem reachable_mtdRefs_after_flash :
    ∃ s₀, apbaCtrlProbe { DeviceTree.sample with
        mtd := fun n => if n = 0 then some ⟨apbaFirmwarePartition, false, List.replicate 8 0⟩
          else none } = .ok s₀ ∧
      mtdRefs (step Consts.sample s₀ (.firmwareCallback (some ⟨4, fun _ => 0xAA⟩)
        ⟨false, 0, true, 0, 0⟩)).calls 0 = 0 := by
  obtain ⟨s₀, h⟩ : ∃ s₀, apbaCtrlProbe { DeviceTree.sample with
      mtd := fun n => if n = 0 then some ⟨apbaFirmwarePartition, false, List.replicate 8 0⟩
        else none } = .ok s₀ := ⟨_, rfl⟩
  exact ⟨s₀, h, reachable_mtdRefs Consts.sample (.step _ (.probe h)) 0⟩

end GreybusApba
