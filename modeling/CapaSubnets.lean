import CapaSubnets.Api
import CapaSubnets.Ec2
import CapaSubnets.Subnets
import CapaSubnets.Laws
import CapaSubnets.Stages
import CapaSubnets.Frame
import CapaSubnets.Defaults
import CapaSubnets.Loops
import CapaSubnets.Pass
import CapaSubnets.Unmanaged
import CapaSubnets.Runs
import CapaSubnets.Tagging
import CapaSubnets.Lifecycle
import CapaSubnets.Configuration
import CapaSubnets.Progress
import CapaSubnets.Roles
import CapaSubnets.Convergence
import CapaSubnets.Duplicates
import CapaSubnets.Bootstrap
import CapaSubnets.Recovery
import CapaSubnets.Steady
