import HundunFlow.Proofs.MgTransfers
import HundunFlow.Proofs.StorageIntervals
import HundunFlow.Proofs.SharedFaceValues
import HundunFlow.Proofs.FinishCertificates
import HundunFlow.Proofs.IccgPreconditioner
import HundunFlow.Proofs.RegionAgreement
import HundunFlow.Proofs.ChemistryAnswers
import HundunFlow.Proofs.StripedEvaluation
import HundunFlow.Proofs.SprayAtomicity
import HundunFlow.Proofs.ParcelTransactions
import HundunFlow.Proofs.CacheFreshness
import HundunFlow.Proofs.MandatoryFlux
import HundunFlow.Proofs.GridChoice
import HundunFlow.Proofs.TicketRetirement
import HundunFlow.Proofs.BatchConservation
import HundunFlow.Proofs.WorkspacePlacement
import HundunFlow.Proofs.HaloReentry
import HundunFlow.Proofs.TiledDivergence
import HundunFlow.Proofs.RestartPlan
import HundunFlow.Proofs.LinearGenerations
import HundunFlow.Proofs.CertificateLifetime
import HundunFlow.Proofs.MaximumAgreement
import HundunFlow.Proofs.FocusEnvelope
import HundunFlow.Proofs.MigrationGeometry
import HundunFlow.Proofs.TabDispersion
import HundunFlow.Proofs.CoreShares
import HundunFlow.Proofs.TcrLineage
import HundunFlow.Proofs.EsfAccounting
import HundunFlow.Proofs.EsfSimplex
import HundunFlow.Proofs.WindowRuns
import HundunFlow.Proofs.TcrRecords
import HundunFlow.Proofs.GraphRules
import HundunFlow.Proofs.ClosedMassSolve
import HundunFlow.Proofs.AttemptLockstep
import HundunFlow.Proofs.DonorBands
