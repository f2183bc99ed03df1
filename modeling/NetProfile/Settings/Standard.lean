import NetProfile.Settings.Aggregate
import NetProfile.Settings.Authentication
import NetProfile.Settings.Bridge
import NetProfile.Settings.Connection
import NetProfile.Settings.DataCenter
import NetProfile.Settings.Ethernet
import NetProfile.Settings.Infiniband
import NetProfile.Settings.Ip
import NetProfile.Settings.Modem
import NetProfile.Settings.Offload
import NetProfile.Settings.OpenVSwitch
import NetProfile.Settings.Overlay
import NetProfile.Settings.PointToPoint
import NetProfile.Settings.Vpn
import NetProfile.Settings.Wifi

/-!
The standard catalogue: all settings in the order of their names.
-/

namespace NetProfile

open Settings in
def Catalogue.standard : Catalogue where
  settings :=
    [lowpan, olpcMesh, wifi, wifiSecurity, portAuthentication, ethernet, adsl, bluetooth, bond,
      bridge, bridgePort, cdma, connection, dcb, dummy, ethtool, generic, gsm, infiniband, ipTunnel,
      ipv4, ipv6, macsec, macvlan, matching, ovsBridge, ovsDpdk, ovsInterface, ovsPatch, ovsPort,
      ppp, pppoe, proxy, serial, sriov, tc, team, teamPort, tun, user, vlan, vpn, vxlan, wifiP2p,
      wimax, wireguard, wpan]

end NetProfile
