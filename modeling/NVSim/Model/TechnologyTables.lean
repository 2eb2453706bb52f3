import Mathlib.Data.Fin.VecNotation
import NVSim.Model.Technology

/-!
# The technology tables

The entries of `Technology::Initialize`, as they stand in the source.  Where the source
derives a current array from another one, the table does as well: from 45 nm down the off
currents of both transistors are the same, and at 22 nm an on current of a PMOS is half of
that of the NMOS ten degrees below.
-/

namespace NVSim

variable {K : Type} [Field K]

/-- The on currents of the PMOS at 22 nm. -/
def halvedCurrents (currentOnNmos : Fin 11 → K) : Fin 11 → K :=
  fun i => currentOnNmos (i - (if i = 0 then 0 else 1)) / 2

/-- The branch of 200 nm. -/
def table200 : DeviceRoadmap → TechnologyTable K
  | .hp =>
      { vdd := 1.5, vth := 300e-3, phyGateLength := 0.1e-6
        capIdealGate := 8e-10, capFringe := 2.5e-10, capJunction := 1.00e-3, capOx := 1e-2
        effectiveElectronMobility := 320e-4, effectiveHoleMobility := 80e-4
        pnSizeRatio := 2.45, effectiveResistanceMultiplier := 1.54
        currentOnNmos := ![750, 750, 750, 750, 750, 750, 750, 750, 750, 750, 750]
        currentOnPmos := ![350, 350, 350, 350, 350, 350, 350, 350, 350, 350, 350]
        currentOffNmos := ![8e-3, 8e-3, 8e-3, 8e-3, 8e-3, 8e-3, 8e-3, 8e-3, 8e-3, 8e-3, 8e-3]
        currentOffPmos := ![1.6e-2, 1.6e-2, 1.6e-2, 1.6e-2, 1.6e-2, 1.6e-2, 1.6e-2, 1.6e-2, 1.6e-2,
          1.6e-2, 1.6e-2] }
  | .lstp =>
      { vdd := 1.5, vth := 600e-3, phyGateLength := 0.16e-6
        capIdealGate := 8e-10, capFringe := 2.5e-10, capJunction := 1.00e-3, capOx := 1e-2
        effectiveElectronMobility := 320e-4, effectiveHoleMobility := 80e-4
        pnSizeRatio := 2.45, effectiveResistanceMultiplier := 1.54
        currentOnNmos := ![330, 330, 330, 330, 330, 330, 330, 330, 330, 330, 330]
        currentOnPmos := ![168, 168, 168, 168, 168, 168, 168, 168, 168, 168, 168]
        currentOffNmos := ![4.25e-6, 4.25e-6, 4.25e-6, 4.25e-6, 4.25e-6, 4.25e-6, 4.25e-6, 4.25e-6,
          4.25e-6, 4.25e-6, 4.25e-6]
        currentOffPmos := ![8.5e-6, 8.5e-6, 8.5e-6, 8.5e-6, 8.5e-6, 8.5e-6, 8.5e-6, 8.5e-6, 8.5e-6,
          8.5e-6, 8.5e-6] }
  | .lop =>
      { vdd := 1.2, vth := 450e-3, phyGateLength := 0.135e-6
        capIdealGate := 8e-10, capFringe := 2.5e-10, capJunction := 1.00e-3, capOx := 1e-2
        effectiveElectronMobility := 330e-4, effectiveHoleMobility := 90e-4
        pnSizeRatio := 2.45, effectiveResistanceMultiplier := 1.54
        currentOnNmos := ![490, 490, 490, 490, 490, 490, 490, 490, 490, 490, 490]
        currentOnPmos := ![230, 230, 230, 230, 230, 230, 230, 230, 230, 230, 230]
        currentOffNmos := ![4e-4, 4e-4, 4e-4, 4e-4, 4e-4, 4e-4, 4e-4, 4e-4, 4e-4, 4e-4, 4e-4]
        currentOffPmos := ![8e-4, 8e-4, 8e-4, 8e-4, 8e-4, 8e-4, 8e-4, 8e-4, 8e-4, 8e-4, 8e-4] }

/-- The branch of 120 nm. -/
def table120 : DeviceRoadmap → TechnologyTable K
  | .hp =>
      { vdd := 1.2, vth := 218.04e-3, phyGateLength := 0.0451e-6
        capIdealGate := 7.41e-10, capFringe := 2.4e-10, capJunction := 1.00e-3, capOx := 1.64e-2
        effectiveElectronMobility := 249.59e-4, effectiveHoleMobility := 59.52e-4
        pnSizeRatio := 2.45, effectiveResistanceMultiplier := 1.54
        currentOnNmos := ![960.9, 947.9, 935.1, 922.5, 910.0, 897.7, 885.5, 873.6, 861.8, 850.1,
          838.6]
        currentOnPmos := ![578.4, 567.8, 557.5, 547.4, 537.5, 527.8, 518.3, 509.1, 500.0, 491.1,
          482.5]
        currentOffNmos := ![1.90e-2, 2.35e-2, 2.86e-2, 3.45e-2, 4.12e-2, 4.87e-2, 5.71e-2, 6.64e-2,
          7.67e-2, 8.80e-2, 1.00e-1]
        currentOffPmos := ![3.82e-2, 3.84e-2, 3.87e-2, 3.90e-2, 3.93e-2, 3.97e-2, 4.01e-2, 4.05e-2,
          4.10e-2, 4.16e-2, 4.22e-2] }
  | .lstp =>
      { vdd := 1.2, vth := 501.25e-3, phyGateLength := 0.075e-6
        capIdealGate := 8.62e-10, capFringe := 2.5e-10, capJunction := 1.00e-3, capOx := 1.15e-2
        effectiveElectronMobility := 284.97e-4, effectiveHoleMobility := 61.82e-4
        pnSizeRatio := 2.45, effectiveResistanceMultiplier := 1.54
        currentOnNmos := ![422.5, 415.0, 407.7, 400.5, 393.6, 386.8, 380.1, 373.7, 367.4, 361.3,
          355.5]
        currentOnPmos := ![204.9, 200.3, 195.9, 191.7, 187.5, 183.5, 179.7, 175.9, 172.3, 168.8,
          165.4]
        currentOffNmos := ![1.01e-5, 1.04e-5, 1.06e-5, 1.09e-5, 1.12e-5, 1.16e-5, 1.20e-5, 1.24e-5,
          1.28e-5, 1.32e-5, 1.37e-5]
        currentOffPmos := ![2.21e-5, 2.27e-5, 2.33e-5, 2.40e-5, 2.47e-5, 2.54e-5, 2.62e-5, 2.71e-5,
          2.80e-5, 2.90e-5, 3.01e-5] }
  | .lop =>
      { vdd := 1.0, vth := 312.60e-3, phyGateLength := 0.065e-6
        capIdealGate := 6.34e-10, capFringe := 2.5e-10, capJunction := 1.00e-3, capOx := 1.44e-2
        effectiveElectronMobility := 292.43e-4, effectiveHoleMobility := 64.53e-4
        pnSizeRatio := 2.45, effectiveResistanceMultiplier := 1.54
        currentOnNmos := ![531.4, 522.6, 514.0, 505.5, 497.3, 489.2, 481.3, 473.6, 466.1, 458.8,
          451.6]
        currentOnPmos := ![278.5, 272.5, 266.8, 261.2, 255.8, 250.5, 245.4, 240.4, 235.6, 231.0,
          226.4]
        currentOffNmos := ![9.69e-4, 9.87e-4, 1.01e-3, 1.03e-3, 1.05e-3, 1.08e-3, 1.10e-3, 1.13e-3,
          1.16e-3, 1.19e-3, 1.23e-3]
        currentOffPmos := ![2.20e-3, 2.25e-3, 2.29e-3, 2.34e-3, 2.39e-3, 2.45e-3, 2.51e-3, 2.57e-3,
          2.64e-3, 2.72e-3, 2.79e-3] }

/-- The branch of 90 nm. -/
def table90 : DeviceRoadmap → TechnologyTable K
  | .hp =>
      { vdd := 1.2, vth := 197.95e-3, phyGateLength := 0.037e-6
        capIdealGate := 6.38e-10, capFringe := 2.5e-10, capJunction := 1.00e-3, capOx := 1.73e-2
        effectiveElectronMobility := 243.43e-4, effectiveHoleMobility := 58.32e-4
        pnSizeRatio := 2.45, effectiveResistanceMultiplier := 1.54
        currentOnNmos := ![1050.5, 1037.0, 1023.6, 1010.3, 997.2, 984.2, 971.4, 958.8, 946.3,
          933.9, 921.7]
        currentOnPmos := ![638.7, 627.5, 616.5, 605.8, 595.2, 584.9, 574.7, 564.8, 555.1, 545.5,
          536.2]
        currentOffNmos := ![1.90e-2 * 2.73, 2.35e-2 * 2.73, 2.86e-2 * 2.73, 3.45e-2 * 2.73,
          4.12e-2 * 2.73, 4.87e-2 * 2.73, 5.71e-2 * 2.73, 6.64e-2 * 2.73, 7.67e-2 * 2.73,
          8.80e-2 * 2.73, 1.00e-1 * 2.73]
        currentOffPmos := ![5.26e-2, 5.26e-2, 5.26e-2, 5.27e-2, 5.28e-2, 5.29e-2, 5.31e-2, 5.34e-2,
          5.36e-2, 5.40e-2, 5.43e-2] }
  | .lstp =>
      { vdd := 1.2, vth := 502.36e-3, phyGateLength := 0.065e-6
        capIdealGate := 7.73e-10, capFringe := 2.4e-10, capJunction := 1.00e-3, capOx := 1.19e-2
        effectiveElectronMobility := 277.94e-4, effectiveHoleMobility := 60.64e-4
        pnSizeRatio := 2.44, effectiveResistanceMultiplier := 1.92
        currentOnNmos := ![446.6, 438.7, 431.2, 423.8, 416.7, 409.7, 402.9, 396.3, 389.8, 383.5,
          377.3]
        currentOnPmos := ![221.5, 216.6, 212.0, 207.4, 203.1, 198.8, 194.7, 190.7, 186.9, 183.1,
          179.5]
        currentOffNmos := ![9.45e-6, 9.67e-6, 9.91e-5, 1.02e-5, 1.05e-5, 1.08e-5, 1.11e-5, 1.14e-5,
          1.28e-5, 1.32e-5, 1.37e-5]
        currentOffPmos := ![2.05e-5, 2.10e-5, 2.15e-5, 2.21e-5, 2.27e-5, 2.34e-5, 2.41e-5, 2.48e-5,
          2.56e-5, 2.65e-5, 2.74e-5] }
  | .lop =>
      { vdd := 0.9, vth := 264.54e-3, phyGateLength := 0.053e-6
        capIdealGate := 7.95e-10, capFringe := 2.4e-10, capJunction := 1.00e-3, capOx := 1.50e-2
        effectiveElectronMobility := 309.04e-4, effectiveHoleMobility := 67.88e-4
        pnSizeRatio := 2.54, effectiveResistanceMultiplier := 1.77
        currentOnNmos := ![534.5, 525.7, 517.0, 508.5, 500.2, 492.1, 484.1, 476.3, 468.7, 461.2,
          453.9]
        currentOnPmos := ![294.2, 287.8, 281.7, 275.7, 269.9, 264.2, 258.7, 253.4, 248.2, 243.2,
          238.3]
        currentOffNmos := ![2.74e-3, 2.6e-3, 2.79e-3, 2.81e-3, 2.84e-3, 2.88e-3, 2.91e-3, 2.95e-3,
          2.99e-3, 3.04e-3, 3.09e-3]
        currentOffPmos := ![6.51e-3, 6.56e-3, 6.61e-3, 6.67e-3, 6.74e-3, 6.82e-3, 6.91e-3, 7.00e-3,
          7.10e-3, 7.21e-3, 7.33e-3] }

/-- The branch of 65 nm. -/
def table65 : DeviceRoadmap → TechnologyTable K
  | .hp =>
      { vdd := 1.1, vth := 163.98e-3, phyGateLength := 0.025e-6
        capIdealGate := 4.70e-10, capFringe := 2.4e-10, capJunction := 1.00e-3, capOx := 1.88e-2
        effectiveElectronMobility := 445.74e-4, effectiveHoleMobility := 113.330e-4
        pnSizeRatio := 2.41, effectiveResistanceMultiplier := 1.50
        currentOnNmos := ![1211.4, 1198.4, 1185.4, 1172.5, 1156.9, 1146.7, 1133.6, 1119.9, 1104.3,
          1084.6, 1059.0]
        currentOnPmos := ![888.7, 875.8, 861.7, 848.5, 835.4, 822.6, 809.9, 797.3, 784.8, 772.2,
          759.4]
        currentOffNmos := ![3.43e-1, 3.73e-1, 4.03e-1, 4.35e-1, 4.66e-1, 4.99e-1, 5.31e-1, 5.64e-1,
          5.96e-1, 6.25e-1, 6.51e-1]
        currentOffPmos := ![5.68e-1, 6.07e-1, 6.46e-1, 6.86e-1, 7.26e-1, 7.66e-1, 8.06e-1, 8.46e-1,
          8.86e-1, 9.26e-1, 9.65e-1] }
  | .lstp =>
      { vdd := 1.1, vth := 563.92e-3, phyGateLength := 0.045e-6
        capIdealGate := 6.17e-10, capFringe := 2.4e-10, capJunction := 1.00e-3, capOx := 1.37e-2
        effectiveElectronMobility := 457.86e-4, effectiveHoleMobility := 102.64e-4
        pnSizeRatio := 2.23, effectiveResistanceMultiplier := 1.96
        currentOnNmos := ![465.4, 458.5, 451.8, 445.1, 438.4, 431.6, 423.9, 414.2, 400.6, 383.5,
          367.2]
        currentOnPmos := ![234.2, 229.7, 225.3, 221.0, 216.8, 212.7, 208.8, 204.8, 200.7, 196.6,
          192.6]
        currentOffNmos := ![3.03e-5, 4.46e-5, 6.43e-5, 9.06e-5, 1.25e-4, 1.70e-4, 2.25e-4, 2.90e-4,
          3.61e-4, 4.35e-4, 5.20e-4]
        currentOffPmos := ![3.85e-5, 5.64e-5, 8.09e-5, 1.14e-4, 1.57e-4, 2.12e-4, 2.82e-4, 3.70e-4,
          4.78e-4, 6.09e-4, 7.66e-4] }
  | .lop =>
      { vdd := 0.8, vth := 323.75e-3, phyGateLength := 0.032e-6
        capIdealGate := 6.01e-10, capFringe := 2.4e-10, capJunction := 1.00e-3, capOx := 1.88e-2
        effectiveElectronMobility := 491.59e-4, effectiveHoleMobility := 110.95e-4
        pnSizeRatio := 2.28, effectiveResistanceMultiplier := 1.82
        currentOnNmos := ![562.9, 555.2, 547.5, 539.8, 532.2, 524.5, 516.1, 505.7, 491.1, 471.7,
          451.6]
        currentOnPmos := ![329.5, 323.3, 317.2, 311.2, 305.4, 299.8, 294.2, 288.7, 283.2, 277.5,
          271.8]
        currentOffNmos := ![9.08e-3, 1.11e-2, 1.35e-2, 1.62e-2, 1.92e-2, 2.25e-2, 2.62e-2, 2.99e-2,
          3.35e-2, 3.67e-2, 3.98e-2]
        currentOffPmos := ![1.30e-2, 1.57e-2, 1.89e-2, 2.24e-2, 2.64e-2, 3.08e-2, 3.56e-2, 1.09e-2,
          4.65e-2, 5.26e-2, 5.91e-2] }

/-- The branch of 45 nm. -/
def table45 : DeviceRoadmap → TechnologyTable K
  | .hp =>
      let currentOffNmos : Fin 11 → K := ![2.80e-1, 3.28e-1, 3.81e-1, 4.39e-1, 5.02e-1, 5.69e-1,
        6.42e-1, 7.20e-1, 8.03e-1, 8.91e-1, 9.84e-1]
      { vdd := 1.0, vth := 126.79e-3, phyGateLength := 0.018e-6
        capIdealGate := 6.78e-10, capFringe := 1.7e-10, capJunction := 1.00e-3, capOx := 3.77e-2
        effectiveElectronMobility := 297.70e-4, effectiveHoleMobility := 95.27e-4
        pnSizeRatio := 2.41, effectiveResistanceMultiplier := 1.51
        currentOnNmos := ![1823.8, 1808.2, 1792.6, 1777.0, 1761.4, 1745.8, 1730.3, 1714.7, 1699.1,
          1683.2, 1666.6]
        currentOnPmos := ![1632.2, 1612.8, 1593.6, 1574.1, 1554.7, 1535.5, 1516.4, 1497.6, 1478.8,
          1460.3, 1441.8]
        currentOffNmos := currentOffNmos
        currentOffPmos := currentOffNmos }
  | .lstp =>
      let currentOffNmos : Fin 11 → K := ![1.01e-5, 1.65e-5, 2.62e-5, 4.06e-5, 6.12e-5, 9.02e-5,
        1.30e-4, 1.83e-4, 2.51e-4, 3.29e-4, 4.10e-4]
      { vdd := 1.0, vth := 564.52e-3, phyGateLength := 0.028e-6
        capIdealGate := 5.58e-10, capFringe := 2.1e-10, capJunction := 1.00e-3, capOx := 1.99e-2
        effectiveElectronMobility := 456.14e-4, effectiveHoleMobility := 96.98e-4
        pnSizeRatio := 2.23, effectiveResistanceMultiplier := 1.99
        currentOnNmos := ![527.5, 520.2, 512.9, 505.8, 498.6, 491.4, 483.7, 474.4, 461.2, 442.6,
          421.3]
        currentOnPmos := ![497.9, 489.5, 481.3, 473.2, 465.3, 457.6, 450.0, 442.5, 435.1, 427.5,
          419.7]
        currentOffNmos := currentOffNmos
        currentOffPmos := currentOffNmos }
  | .lop =>
      let currentOffNmos : Fin 11 → K := ![4.03e-3, 5.02e-3, 6.18e-3, 7.51e-3, 9.04e-3, 1.08e-2,
        1.27e-2, 1.47e-2, 1.66e-2, 1.84e-2, 2.03e-2]
      { vdd := 0.7, vth := 288.94e-3, phyGateLength := 0.022e-6
        capIdealGate := 6.13e-10, capFringe := 2.0e-10, capJunction := 1.00e-3, capOx := 2.79e-2
        effectiveElectronMobility := 606.95e-4, effectiveHoleMobility := 124.60e-4
        pnSizeRatio := 2.28, effectiveResistanceMultiplier := 1.76
        currentOnNmos := ![682.1, 672.3, 662.5, 652.8, 643.0, 632.8, 620.9, 605.0, 583.6, 561.0,
          542.7]
        currentOnPmos := ![772.4, 759.6, 746.9, 734.4, 722.1, 710.0, 698.1, 686.3, 674.4, 662.3,
          650.2]
        currentOffNmos := currentOffNmos
        currentOffPmos := currentOffNmos }

/-- The branch of 32 nm. -/
def table32 : DeviceRoadmap → TechnologyTable K
  | .hp =>
      let currentOffNmos : Fin 11 → K := ![8.34e-1, 9.00e-1, 9.68e-1, 1.04, 1.11, 1.18, 1.25, 1.32,
        1.39, 1.46, 1.54]
      { vdd := 0.9, vth := 131.72e-3, phyGateLength := 0.014e-6
        capIdealGate := 6.42e-10, capFringe := 1.6e-10, capJunction := 1.00e-3, capOx := 4.59e-2
        effectiveElectronMobility := 257.73e-4, effectiveHoleMobility := 89.92e-4
        pnSizeRatio := 2.41, effectiveResistanceMultiplier := 1.49
        currentOnNmos := ![1785.8, 1771.8, 1757.8, 1743.8, 1729.8, 1715.7, 1701.7, 1687.6, 1673.5,
          1659.4, 1645.0]
        currentOnPmos := ![1713.5, 1662.8, 1620.1, 1601.6, 1583.3, 1565.1, 1547.1, 1529.1, 1511.3,
          1493.7, 1476.1]
        currentOffNmos := currentOffNmos
        currentOffPmos := currentOffNmos }
  | .lstp =>
      let currentOffNmos : Fin 11 → K := ![3.02e-5, 4.51e-5, 6.57e-5, 9.35e-5, 1.31e-4, 1.79e-4,
        2.41e-4, 3.19e-4, 4.15e-4, 5.29e-4, 6.58e-4]
      { vdd := 1, vth := 581.81e-3, phyGateLength := 0.022e-6
        capIdealGate := 5.02e-10, capFringe := 1.9e-10, capJunction := 1.00e-3, capOx := 2.19e-2
        effectiveElectronMobility := 395.20e-4, effectiveHoleMobility := 88.67e-4
        pnSizeRatio := 2.23, effectiveResistanceMultiplier := 1.99
        currentOnNmos := ![560.0, 553.0, 546.1, 539.3, 532.5, 525.8, 518.9, 511.5, 502.3, 489.2,
          469.7]
        currentOnPmos := ![549.6, 541.1, 532.8, 524.6, 516.5, 508.7, 500.9, 493.3, 485.8, 478.3,
          470.7]
        currentOffNmos := currentOffNmos
        currentOffPmos := currentOffNmos }
  | .lop =>
      let currentOffNmos : Fin 11 → K := ![3.57e-2, 4.21e-2, 4.91e-2, 5.68e-2, 6.51e-2, 7.42e-2,
        8.43e-2, 9.57e-2, 1.10e-1, 1.28e-1, 1.48e-1]
      { vdd := 0.7, vth := 278.52e-3, phyGateLength := 0.018e-6
        capIdealGate := 5.54e-10, capFringe := 2.0e-10, capJunction := 1.00e-3, capOx := 3.08e-2
        effectiveElectronMobility := 581.62e-4, effectiveHoleMobility := 120.30e-4
        pnSizeRatio := 2.28, effectiveResistanceMultiplier := 1.73
        currentOnNmos := ![760.3, 750.4, 740.5, 730.7, 720.8, 710.9, 700.3, 687.6, 670.5, 647.4,
          623.6]
        currentOnPmos := ![878.6, 865.1, 851.8, 838.7, 825.7, 813.0, 800.3, 787.9, 775.5, 763.0,
          750.3]
        currentOffNmos := currentOffNmos
        currentOffPmos := currentOffNmos }

/-- The branch of 22 nm. -/
def table22 : DeviceRoadmap → TechnologyTable K
  | .hp =>
      let currentOnNmos : Fin 11 → K := ![2029.9, 2009.8, 1989.6, 1969.6, 1949.8, 1930.7, 1910.5,
        1891.0, 1871.7, 1852.5, 1834.4]
      let currentOffNmos : Fin 11 → K := ![1.52e-7 * 3.93e6, 1.55e-7 * 3.93e6, 1.59e-7 * 3.93e6,
        1.68e-7 * 3.93e6, 1.90e-7 * 3.93e6, 2.69e-7 * 3.93e6, 5.32e-7 * 3.93e6, 1.02e-6 * 3.93e6,
        1.62e-6 * 3.93e6, 2.73e-6 * 3.93e6, 6.1e-6 * 3.93e6]
      { vdd := 0.9, vth := 128.72e-3, phyGateLength := 0.010e-6
        capIdealGate := 3.83e-10, capFringe := 1.6e-10, capJunction := 0, capOx := 3.83e-2
        effectiveElectronMobility := 397.26e-4, effectiveHoleMobility := 83.60e-4
        pnSizeRatio := 2, effectiveResistanceMultiplier := 1.45
        currentOnNmos := currentOnNmos
        currentOnPmos := halvedCurrents currentOnNmos
        currentOffNmos := currentOffNmos
        currentOffPmos := currentOffNmos }
  | .lstp =>
      let currentOnNmos : Fin 11 → K := ![745.5, 735.2, 725.1, 715.2, 705.4, 695.7, 686.2, 676.9,
        667.7, 658.7, 649.8]
      let currentOffNmos : Fin 11 → K := ![3.02e-5 / 1.86, 4.51e-5 / 1.86, 6.57e-5 / 1.86,
        9.35e-5 / 1.86, 1.31e-4 / 1.86, 1.79e-4 / 1.86, 2.41e-4 / 1.86, 3.19e-4 / 1.86,
        4.15e-4 / 1.86, 5.29e-4 / 1.86, 6.58e-4 / 1.86]
      { vdd := 0.8, vth := 445.71e-3, phyGateLength := 0.016e-6
        capIdealGate := 4.25e-10, capFringe := 2e-10, capJunction := 0, capOx := 2.65e-2
        effectiveElectronMobility := 731.29e-4, effectiveHoleMobility := 111.22e-4
        pnSizeRatio := 2.23, effectiveResistanceMultiplier := 1.99
        currentOnNmos := currentOnNmos
        currentOnPmos := halvedCurrents currentOnNmos
        currentOffNmos := currentOffNmos
        currentOffPmos := currentOffNmos }
  | .lop =>
      let currentOnNmos : Fin 11 → K := ![716.1, 704.3, 692.6, 681.2, 669.9, 658.8, 647.9, 637.1,
        626.5, 616.0, 605.7]
      let currentOffNmos : Fin 11 → K := ![3.57e-2 / 1.7, 4.21e-2 / 1.7, 4.91e-2 / 1.7,
        5.68e-2 / 1.7, 6.51e-2 / 1.7, 7.42e-2 / 1.7, 8.43e-2 / 1.7, 9.57e-2 / 1.7, 1.10e-1 / 1.7,
        1.28e-1 / 1.7, 1.48e-1 / 1.7]
      { vdd := 0.5, vth := 217.39e-3, phyGateLength := 0.011e-6
        capIdealGate := 3.45e-10, capFringe := 1.7e-10, capJunction := 0, capOx := 3.14e-2
        effectiveElectronMobility := 747.37e-4, effectiveHoleMobility := 118.35e-4
        pnSizeRatio := 2.28, effectiveResistanceMultiplier := 1.73
        currentOnNmos := currentOnNmos
        currentOnPmos := halvedCurrents currentOnNmos
        currentOffNmos := currentOffNmos
        currentOffPmos := currentOffNmos }

/-- The tables of the source. -/
def technologyTables : TechnologyTables K
  | .nm200 => table200
  | .nm120 => table120
  | .nm90 => table90
  | .nm65 => table65
  | .nm45 => table45
  | .nm32 => table32
  | .nm22 => table22

end NVSim
