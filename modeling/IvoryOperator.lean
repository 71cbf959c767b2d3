import IvoryOperator.Meta.Client
import IvoryOperator.Meta.Conditions
import IvoryOperator.Upgrade.World
import IvoryOperator.Upgrade.Reconcile
import IvoryOperator.Upgrade.Jobs
import IvoryOperator.Upgrade.Gates
import IvoryOperator.Upgrade.Progressing
import IvoryOperator.Upgrade.Writes
import IvoryOperator.Upgrade.Runs
import IvoryOperator.Upgrade.Succeeded
import IvoryOperator.Upgrade.Watch
import IvoryOperator.Monitoring.Secret
import IvoryOperator.Monitoring.Exporter
import IvoryOperator.Monitoring.PodSpec
import IvoryOperator.PGBackRest.Ini
import IvoryOperator.PGBackRest.Config
import IvoryOperator.PGBackRest.Global
import IvoryOperator.PGBackRest.ConfigMap
import IvoryOperator.Ivory.HugePages
