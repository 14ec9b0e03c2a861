import Kufibot.Lib.Shell
import Kufibot.Services.RemoteConnection

/-!
# `Services.WifiCommand` — the command line of a Wi-Fi configuration

A `wifi_config` message gives an SSID and a password, which are put between the words of a command that
`system` runs, with root rights. Nothing is quoted. So the command is the one that is meant iff the SSID and
the password are words that stand for themselves: not empty, without blanks and without the characters that
the shell reads in its own way, and not the start of a comment or of a home directory (`wifi_command_iff`).
-/

namespace Kufibot

open Lib Lib.Shell

/-- A `wifi_config` message with this SSID and this password. -/
def IsWifiConfig (message : Json) (ssid password : String) : Prop :=
  message.contains "talkie" = false ∧ ∃ config, message.member "wifi_config" = some config ∧
    config.member "SSID" = some (.string ssid) ∧ config.member "Password" = some (.string password)

/-- The words of the command that is meant. -/
def wifiWords (ssid password : String) : List (List Char) :=
  ["sudo".toList, "nmcli".toList, "device".toList, "wifi".toList, "connect".toList, ssid.toList,
    "password".toList, password.toList, "ifname".toList, "wlan0".toList]

/-- The words that the shell reads when `system(command.c_str())` is called; none, if the line is more than
    one simple command, or its words depend on more than the line. -/
def systemWords (command : String) : Option (List (List Char)) := words (upToNul command.toList)

theorem messageSteps_wifi {message : Json} {ssid password : String} (h : IsWifiConfig message ssid password) :
    messageSteps message = some (wifiSteps ssid password) := by
  obtain ⟨htalkie, config, hconfig, hssid, hpassword⟩ := h
  have hcontains : message.contains "wifi_config" = true := by
    unfold Json.contains
    rw [hconfig]
    rfl
  unfold messageSteps
  -- the second branch: both reads find a string
  rw [if_neg (by rw [htalkie]; exact Bool.false_ne_true), if_pos hcontains, Json.index_of_member hconfig]
  simp only [Option.bind_eq_bind, Option.bind_some, Json.index_of_member hssid,
    Json.index_of_member hpassword]
  rfl

/-- The command is put together from the words. -/
theorem command_joined (ssid password : String) :
    ("sudo nmcli device wifi connect " ++ ssid ++ " password " ++ password ++ " ifname wlan0").toList =
      joined (wifiWords ssid password) := by
  unfold wifiWords
  simp only [String.toList_append, joined_cons_cons, joined_singleton, List.append_assoc]
  rfl

theorem isWord_wifiWords_iff (ssid password : String) :
    (∀ w ∈ wifiWords ssid password, IsWord w) ↔ IsWord ssid.toList ∧ IsWord password.toList := by
  have hbefore : ∀ w ∈ ["sudo".toList, "nmcli".toList, "device".toList, "wifi".toList, "connect".toList],
      IsWord w := by decide
  have hbehind : ∀ w ∈ ["ifname".toList, "wlan0".toList], IsWord w := by decide
  have hpasswordWord : IsWord "password".toList := by decide
  have hwords : wifiWords ssid password =
      ["sudo".toList, "nmcli".toList, "device".toList, "wifi".toList, "connect".toList] ++
        ([ssid.toList, "password".toList, password.toList] ++ ["ifname".toList, "wlan0".toList]) := rfl
  rw [hwords]
  constructor
  · intro h
    have hmiddle := (List.forall_mem_append.mp (List.forall_mem_append.mp h).2).1
    exact ⟨hmiddle _ List.mem_cons_self, hmiddle _ (.tail _ (.tail _ List.mem_cons_self))⟩
  · rintro ⟨hssid, hpassword⟩
    refine List.forall_mem_append.mpr ⟨hbefore, List.forall_mem_append.mpr ⟨?_, hbehind⟩⟩
    exact List.forall_mem_cons.mpr ⟨hssid, List.forall_mem_cons.mpr
      ⟨hpasswordWord, List.forall_mem_singleton.mpr hpassword⟩⟩

/-- **The Wi-Fi command.** The hotspot is taken down, and what is run next is the command that is meant, iff
    the SSID and the password are words that stand for themselves. -/
theorem wifi_command_iff {message : Json} {ssid password : String} (h : IsWifiConfig message ssid password) :
    ∃ command, messageSteps message =
        some [.system "sudo nmcli connection down Hotspot", .system command] ∧
      (systemWords command = some (wifiWords ssid password) ↔
        IsWord ssid.toList ∧ IsWord password.toList) := by
  refine ⟨_, messageSteps_wifi h, ?_⟩
  unfold systemWords
  rw [command_joined, words_upToNul_iff]
  exact isWord_wifiWords_iff ssid password

/-- A message with these strings. -/
def wifiConfig (ssid password : String) : Json :=
  .object [("wifi_config", .object [("SSID", .string ssid), ("Password", .string password)])]

theorem plain_wifi_command : ∃ command, messageSteps (wifiConfig "Kufibot" "robot-2024") =
      some [.system "sudo nmcli connection down Hotspot", .system command] ∧
    systemWords command = some (wifiWords "Kufibot" "robot-2024") := by
  have hconfig : IsWifiConfig (wifiConfig "Kufibot" "robot-2024") "Kufibot" "robot-2024" :=
    ⟨rfl, _, rfl, rfl, rfl⟩
  obtain ⟨command, hsteps, hwords⟩ := wifi_command_iff hconfig
  exact ⟨command, hsteps, hwords.mpr (by decide)⟩

/-- **An SSID of two words**, and one with a command of its own. -/
theorem wifi_command_subverted :
    (∃ command, messageSteps (wifiConfig "My Home" "robot-2024") =
        some [.system "sudo nmcli connection down Hotspot", .system command] ∧
      systemWords command ≠ some (wifiWords "My Home" "robot-2024")) ∧
    ∃ command, messageSteps (wifiConfig "x; reboot #" "robot-2024") =
        some [.system "sudo nmcli connection down Hotspot", .system command] ∧
      systemWords command = none := by
  refine ⟨⟨_, rfl, ?_⟩, _, rfl, ?_⟩
  · decide
  · decide

end Kufibot
