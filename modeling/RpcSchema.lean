import RpcSchema.Main
import RpcSchema.Proofs.ArgumentOrder
import RpcSchema.Proofs.CommentedReading
import RpcSchema.Proofs.FieldIdentifiers
import RpcSchema.Proofs.FieldNumbers
import RpcSchema.Proofs.FirstRefusal
import RpcSchema.Proofs.FlattenedLists
import RpcSchema.Proofs.LogIndependence
import RpcSchema.Proofs.NameRuns
import RpcSchema.Proofs.NamingChoice
import RpcSchema.Proofs.ParameterNames
import RpcSchema.Proofs.QuotedRefusals
import RpcSchema.Proofs.RunOutcome
import RpcSchema.Proofs.ScanAccounting
import RpcSchema.Proofs.SettingSpellings
