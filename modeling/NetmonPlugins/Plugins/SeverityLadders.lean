import NetmonPlugins.Common.Icmp.Lemmas
import NetmonPlugins.Common.Severity
import NetmonPlugins.Plugins.Fping.Impl
import NetmonPlugins.Plugins.Load.Impl
import NetmonPlugins.Plugins.Ping.Impl
import NetmonPlugins.Plugins.Swap.Impl

/-!
This module contains the checks that judge several readings in one chain of guards: the code is the
worst of what each reading deserves alone, so a worse reading never makes the code better.
-/

namespace NetmonPlugins

/-- What a reading that is bad when it is high deserves alone. -/
def alone (critical warning reading : Double) : ExitCode :=
  ladder (critical > 0 ∧ reading ≥ critical) (warning > 0 ∧ reading ≥ warning)

theorem toInt_alone_mono (critical warning : Double) {reading reading' : Double}
    (h : reading ≤ reading')
    : (alone critical warning reading).toInt ≤ (alone critical warning reading').toInt := by
  apply toInt_ladder_mono
  . rintro ⟨hset, hreached⟩
    exact ⟨hset, Double.le_trans hreached h⟩
  . rintro ⟨hset, hreached⟩
    exact ⟨hset, Double.le_trans hreached h⟩

namespace LoadPlugin

def worst (config : Config) (load : LoadAverage) : Int :=
  max (alone config.critical1 config.warning1 load.load1).toInt
    (max (alone config.critical5 config.warning5 load.load5).toInt
      (alone config.critical15 config.warning15 load.load15).toInt)

theorem code_report (config : Config) (load : LoadAverage)
    : (report config load).code
        =
      ladder
        ((config.critical1 > 0 ∧ load.load1 ≥ config.critical1)
          ∨ (config.critical5 > 0 ∧ load.load5 ≥ config.critical5)
          ∨ (config.critical15 > 0 ∧ load.load15 ≥ config.critical15))
        ((config.warning1 > 0 ∧ load.load1 ≥ config.warning1)
          ∨ (config.warning5 > 0 ∧ load.load5 ≥ config.warning5)
          ∨ (config.warning15 > 0 ∧ load.load15 ≥ config.warning15)) := by
  unfold report checkThresholds ladder
  simp only [apply_ite Prod.fst, ite_or]

theorem toInt_code_report (config : Config) (load : LoadAverage)
    : (report config load).code.toInt = worst config load := by
  rw [code_report, toInt_ladder_or, toInt_ladder_or]
  rfl

theorem worst_mono (config : Config) {load load' : LoadAverage} (h1 : load.load1 ≤ load'.load1)
    (h5 : load.load5 ≤ load'.load5) (h15 : load.load15 ≤ load'.load15)
    : worst config load ≤ worst config load' := by
  apply max_le_max
  . exact toInt_alone_mono _ _ h1
  . apply max_le_max
    . exact toInt_alone_mono _ _ h5
    . exact toInt_alone_mono _ _ h15

theorem check_of_getLoadAverage {sysinfo : Option SysInfo} {load : LoadAverage}
    (h : getLoadAverage sysinfo = .ok load) (config : Config)
    : check sysinfo config = report config load := by
  unfold check
  rw [h]

end LoadPlugin

namespace Icmp

def PingResult.worst (criticalPL warningPL criticalRTA warningRTA : Double) (result : PingResult)
    : Int :=
  max (alone criticalPL warningPL result.packetLoss).toInt
    (alone criticalRTA warningRTA result.avgRTT).toInt

theorem PingResult.worst_mono (criticalPL warningPL criticalRTA warningRTA : Double)
    {result result' : PingResult} (hloss : result.packetLoss ≤ result'.packetLoss)
    (havg : result.avgRTT ≤ result'.avgRTT)
    : result.worst criticalPL warningPL criticalRTA warningRTA
        ≤
      result'.worst criticalPL warningPL criticalRTA warningRTA := by
  apply max_le_max
  . exact toInt_alone_mono _ _ hloss
  . exact toInt_alone_mono _ _ havg

end Icmp

open Icmp

namespace PingPlugin

def worst (config : Config) (result : PingResult) : Int :=
  result.worst config.criticalPL config.warningPL config.criticalRTA config.warningRTA

theorem code_check {network : Network} {config : Config} {result : PingResult}
    (hhostname : config.hostname ≠ [])
    (hping : pingHost network config.hostname config.packetCount config.timeoutSeconds
        = .ok result)
    : (check network config).code
        =
      ladder
        ((config.criticalPL > 0 ∧ result.packetLoss ≥ config.criticalPL)
          ∨ (config.criticalRTA > 0 ∧ result.avgRTT ≥ config.criticalRTA))
        ((config.warningPL > 0 ∧ result.packetLoss ≥ config.warningPL)
          ∨ (config.warningRTA > 0 ∧ result.avgRTT ≥ config.warningRTA)) := by
  have hcode : (check network config).code
      = if (checkThresholds config result).1 then .critical
        else if (checkThresholds config result).2 then .warning
        else .ok := by
    unfold check
    rw [if_neg hhostname, hping]
    dsimp only
    split
    . rfl
    . split
      . rfl
      . rfl
  rw [hcode]
  exact ite_flags _ _ _ rfl

def Judges (config : Config) (result : PingResult) (code : ExitCode) : Prop :=
  config.hostname ≠ []
    ∧
  ∃ network,
    pingHost network config.hostname config.packetCount config.timeoutSeconds = .ok result
      ∧
    (check network config).code = code

theorem Judges.toInt_eq {config : Config} {result : PingResult} {code : ExitCode}
    (h : Judges config result code)
    : code.toInt = worst config result := by
  obtain ⟨hhostname, network, hping, rfl⟩ := h
  rw [code_check hhostname hping, toInt_ladder_or]
  rfl

end PingPlugin

namespace FpingPlugin

def worst (config : Config) (result : PingResult) : Int :=
  result.worst config.criticalPL config.warningPL config.criticalRTA config.warningRTA

theorem checkThresholds_eq_ladder (config : Config) (result : PingResult)
    : checkThresholds config result
        =
      ladder
        ((config.criticalPL > 0 ∧ result.packetLoss ≥ config.criticalPL)
          ∨ (config.criticalRTA > 0 ∧ result.avgRTT ≥ config.criticalRTA))
        ((config.warningPL > 0 ∧ result.packetLoss ≥ config.warningPL)
          ∨ (config.warningRTA > 0 ∧ result.avgRTT ≥ config.warningRTA)) := by
  unfold checkThresholds ladder
  simp only [ite_or]

theorem code_check {network : Network} {config : Config} {result : PingResult}
    (hhostname : config.hostname ≠ [])
    (hping : pingHost network config.hostname config.count 10 = .ok result)
    : (check network config).code = checkThresholds config result := by
  unfold check
  rw [if_neg hhostname, hping]

def Judges (config : Config) (result : PingResult) (code : ExitCode) : Prop :=
  config.hostname ≠ []
    ∧
  ∃ network,
    pingHost network config.hostname config.count 10 = .ok result
      ∧
    (check network config).code = code

theorem Judges.toInt_eq {config : Config} {result : PingResult} {code : ExitCode}
    (h : Judges config result code)
    : code.toInt = worst config result := by
  obtain ⟨hhostname, network, hping, rfl⟩ := h
  rw [code_check hhostname hping, checkThresholds_eq_ladder, toInt_ladder_or]
  rfl

end FpingPlugin

namespace SwapPlugin

theorem checkThresholds_eq_ladder (config : Config) (swap : SwapInfo)
    : checkThresholds config swap
        =
      ladder
        ((config.criticalFree > 0 ∧ swap.free < config.criticalFree)
          ∨ (config.criticalPercent > 0 ∧ freePercent swap < config.criticalPercent))
        ((config.warningFree > 0 ∧ swap.free < config.warningFree)
          ∨ (config.warningPercent > 0 ∧ freePercent swap < config.warningPercent)) := by
  unfold checkThresholds ladder
  simp only [ite_or]

theorem getSwapInfo_used {sysinfo : Option SysInfo} {swap : SwapInfo}
    (h : getSwapInfo sysinfo = .ok swap)
    : 0 ≤ swap.total ∧ swap.total < 2 ^ 64 ∧ swap.used = swap.total - swap.free := by
  cases sysinfo with
  | none => simp [getSwapInfo] at h
  | some si =>
    simp only [getSwapInfo, Except.ok.injEq] at h
    subst h
    have hlt := UInt64.toNat_lt (si.totalswap * si.mem_unit.toUInt64 / 1024)
    refine ⟨Int.natCast_nonneg _, ?_, rfl⟩
    dsimp only [kilobytes]
    omega

/-- Each of the operations is monotone, and so is the rounding behind it. -/
theorem freePercent_anti {swap swap' : SwapInfo} (hpos : 0 < swap.total)
    (hlt : swap.total < 2 ^ 64) (htotal : swap'.total = swap.total) (hused : swap.used ≤ swap'.used)
    : freePercent swap' ≤ freePercent swap := by
  have hround := Double.round_pos_of_pos hpos
  have hhundred : (100 : Double) = .fin 100 := by
    rw [Double.ofNat_eq_fin]
    norm_num
  unfold freePercent usedPercent
  rw [htotal, Double.ofLongLong_eq_fin (by omega : swap.total.natAbs ≤ 2 ^ 64), hhundred]
  apply Double.round_mono
  apply Double.fin_sub_anti
  apply Double.round_mono
  apply Double.mul_fin_mono (by norm_num)
  apply Double.round_mono
  apply Double.div_fin_mono hround
  exact Double.ofLongLong_mono hused

def Judges (config : Config) (swap : SwapInfo) (code : ExitCode) : Prop :=
  ∃ sysinfo, getSwapInfo sysinfo = .ok swap ∧ (check sysinfo config).code = code

theorem Judges.mono {config : Config} {swap swap' : SwapInfo} {code code' : ExitCode}
    (h : Judges config swap code) (h' : Judges config swap' code')
    (htotal : swap.total = swap'.total) (hfree : swap'.free ≤ swap.free)
    : code.toInt ≤ code'.toInt := by
  obtain ⟨sysinfo, hswap, rfl⟩ := h
  obtain ⟨sysinfo', hswap', rfl⟩ := h'
  obtain ⟨hnonneg, hlt, hused⟩ := getSwapInfo_used hswap
  obtain ⟨-, -, hused'⟩ := getSwapInfo_used hswap'
  unfold check
  rw [hswap, hswap']
  dsimp only
  by_cases hzero : swap.total = 0
  . rw [if_pos hzero, if_pos (htotal ▸ hzero)]
  . rw [if_neg hzero, if_neg (htotal ▸ hzero)]
    have hpercent : freePercent swap' ≤ freePercent swap :=
      freePercent_anti (by omega) hlt htotal.symm (by omega)
    rw [checkThresholds_eq_ladder, checkThresholds_eq_ladder]
    have hbelow (free : Int) (percent : Double)
        (h : (free > 0 ∧ swap.free < free) ∨ (percent > 0 ∧ freePercent swap < percent))
        : (free > 0 ∧ swap'.free < free) ∨ (percent > 0 ∧ freePercent swap' < percent) := by
      rcases h with ⟨hset, hlt⟩ | ⟨hset, hlt⟩
      . exact .inl ⟨hset, by omega⟩
      . exact .inr ⟨hset, Double.lt_of_le_of_lt hpercent hlt⟩
    exact toInt_ladder_mono (hbelow _ _) (hbelow _ _)

end SwapPlugin

/--
The codes of `check_load`, `check_ping` and `check_fping` are the worst of what the readings deserve
alone, so none of them gets better when a reading rises; nor does the code of `check_swap` when swap
of the same total becomes less free.
-/
theorem worst_severity
    : (∀ (config : LoadPlugin.Config) (load load' : LoadPlugin.LoadAverage),
          (LoadPlugin.report config load).code.toInt = LoadPlugin.worst config load
            ∧
          (load.load1 ≤ load'.load1 → load.load5 ≤ load'.load5 → load.load15 ≤ load'.load15
            → (LoadPlugin.report config load).code.toInt
                ≤
              (LoadPlugin.report config load').code.toInt))
        ∧
      (∀ (config : LoadPlugin.Config) (sysinfo : Option LoadPlugin.SysInfo)
          (load : LoadPlugin.LoadAverage),
          LoadPlugin.getLoadAverage sysinfo = .ok load
          → LoadPlugin.check sysinfo config = LoadPlugin.report config load)
        ∧
      (∀ (config : PingPlugin.Config) (result result' : PingResult) (code code' : ExitCode),
          PingPlugin.Judges config result code → PingPlugin.Judges config result' code'
          → code.toInt = PingPlugin.worst config result
              ∧
            (result.packetLoss ≤ result'.packetLoss → result.avgRTT ≤ result'.avgRTT
              → code.toInt ≤ code'.toInt))
        ∧
      (∀ (config : FpingPlugin.Config) (result result' : PingResult) (code code' : ExitCode),
          FpingPlugin.Judges config result code → FpingPlugin.Judges config result' code'
          → code.toInt = FpingPlugin.worst config result
              ∧
            (result.packetLoss ≤ result'.packetLoss → result.avgRTT ≤ result'.avgRTT
              → code.toInt ≤ code'.toInt))
        ∧
      ∀ (config : SwapPlugin.Config) (swap swap' : SwapPlugin.SwapInfo) (code code' : ExitCode),
        SwapPlugin.Judges config swap code → SwapPlugin.Judges config swap' code'
        → swap.total = swap'.total → swap'.free ≤ swap.free → code.toInt ≤ code'.toInt := by
  refine ⟨?_, ?_, ?_, ?_, ?_⟩
  . intro config load load'
    rw [LoadPlugin.toInt_code_report, LoadPlugin.toInt_code_report]
    exact ⟨rfl, LoadPlugin.worst_mono config⟩
  . intro config sysinfo load h
    exact LoadPlugin.check_of_getLoadAverage h config
  . intro config result result' code code' h h'
    rw [h.toInt_eq, h'.toInt_eq]
    exact ⟨rfl, PingResult.worst_mono _ _ _ _⟩
  . intro config result result' code code' h h'
    rw [h.toInt_eq, h'.toInt_eq]
    exact ⟨rfl, PingResult.worst_mono _ _ _ _⟩
  . intro config swap swap' code code' h h'
    exact h.mono h'

def halfLost : Network where
  socketOpens := true
  resolves := true
  probe i := if i = 0 then .reply ⟨10, 0⟩ ⟨10, 30000⟩ else .noReply

def swapWithFree (freeswap : UInt64) : Option SwapPlugin.SysInfo :=
  some { totalswap := 1024000, freeswap := freeswap, mem_unit := 1 }

theorem worst_severity_of_half
    : let ping : PingPlugin.Config :=
        { hostname := str "router", packetCount := 2, criticalRTA := 20, warningPL := 40 }
      let fping : FpingPlugin.Config :=
        { hostname := str "router", count := 2, criticalPL := 80, warningRTA := 20 }
      (PingPlugin.check halfLost ping).code = .critical
        ∧
      (PingPlugin.check halfLost ping).code.toInt
        = PingPlugin.worst ping ⟨2, 1, .fin 30, .fin 30, .fin 30, .fin 50⟩
        ∧
      (FpingPlugin.check halfLost fping).code = .warning
        ∧
      (FpingPlugin.check halfLost fping).code.toInt
        = FpingPlugin.worst fping ⟨2, 1, .fin 30, .fin 30, .fin 30, .fin 50⟩
        ∧
      (SwapPlugin.check (swapWithFree 512000) { criticalPercent := 20 }).code.toInt
        ≤ (SwapPlugin.check (swapWithFree 102400) { criticalPercent := 20 }).code.toInt := by
  intro ping fping
  have hping : PingPlugin.Judges ping ⟨2, 1, .fin 30, .fin 30, .fin 30, .fin 50⟩
      (PingPlugin.check halfLost ping).code :=
    ⟨by decide, halfLost, by decide +kernel, rfl⟩
  have hfping : FpingPlugin.Judges fping ⟨2, 1, .fin 30, .fin 30, .fin 30, .fin 50⟩
      (FpingPlugin.check halfLost fping).code :=
    ⟨by decide, halfLost, by decide +kernel, rfl⟩
  have hswap : SwapPlugin.Judges { criticalPercent := 20 } ⟨1000, 500, 500⟩
      (SwapPlugin.check (swapWithFree 512000) { criticalPercent := 20 }).code :=
    ⟨swapWithFree 512000, by decide +kernel, rfl⟩
  have hswap' : SwapPlugin.Judges { criticalPercent := 20 } ⟨1000, 900, 100⟩
      (SwapPlugin.check (swapWithFree 102400) { criticalPercent := 20 }).code :=
    ⟨swapWithFree 102400, by decide +kernel, rfl⟩
  refine ⟨by decide +kernel, ?_, by decide +kernel, ?_, ?_⟩
  . exact (worst_severity.2.2.1 _ _ _ _ _ hping hping).1
  . exact (worst_severity.2.2.2.1 _ _ _ _ _ hfping hfping).1
  . exact worst_severity.2.2.2.2 _ _ _ _ _ hswap hswap' rfl (by decide)

end NetmonPlugins
